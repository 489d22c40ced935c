import LabIndex.Change.Feed
import LabIndex.Indexing.Kinds

/-!
# What a change asks for

A change is followed by running the kinds whose documents it can touch, each over a list of ids.

* A changed file is run again, with all samples that use it; so is a file whose tags or notes
  changed. A changed note touches all files it is on.
* A change to a link between a sample and a file, or to a sample, touches the sample.
* A change to a property set touches all samples that have it.

A look-up that fails, or rows that stop early, make the whole plan fail; nothing has been run
then. A kind with no ids is no part of a plan, so no run of a plan covers everything.
-/

namespace LabIndex

/-! ## 1. Targets -/

/-- A kind to be run over some ids. -/
structure Target where
  kind : Kind
  ids : List String
deriving DecidableEq, Repr

/-- The target for some ids; none at all for no ids. -/
def Target.ofIds (kind : Kind) (ids : List String) : List Target :=
  if ids.isEmpty then [] else [⟨kind, ids⟩]

namespace ChangeEvent

/-- The type that link rows give to files. -/
def fileItem : String := "datafile"

/-- Appends a text that is not there yet. -/
def insertNew (seen : List String) (s : String) : List String :=
  if seen.contains s then seen else seen ++ [s]

/-- The distinct texts in a column, in the order of their first rows. -/
def distinctColumn (key : String) (rows : List Json) : List String :=
  (rows.filterMap (column? · key)).foldl insertNew []

/-- The distinct texts in a column of what a query yields. -/
def lookUp (src : Source) (q : Query) (key : String) : Except Failure (List String) :=
  (src.allRows q).map (distinctColumn key)

/-- The samples that use some files. -/
def samplesUsing (src : Source) (files : List String) : Except Failure (List String) :=
  if files.isEmpty then .ok []
  else lookUp src (.getAllBy "sample2datafile" "datafile_id" files) "sample_id"

/-- The files among the items of link rows. -/
def filesAmong (rows : List Json) : List String :=
  (rows.filter fun r => column? r "item_type" == some fileItem).filterMap (column? · "item_id")

/-- The targets for some files and the samples that use them. -/
def fileTargets (src : Source) (files : List String) : Except Failure (List Target) := do
  let samples ← samplesUsing src files
  return Target.ofIds .file files ++ Target.ofIds .sample samples

/-- The targets of a change. -/
def plan (src : Source) : ChangeEvent → Except Failure (List Target)
  | file id => fileTargets src [id]
  | projectFile id => .ok (Target.ofIds .file [id])
  | sample id => .ok (Target.ofIds .sample [id])
  | sampleFile id => .ok (Target.ofIds .sample [id])
  | propertySet id => do
    let samples ← lookUp src
      (.getAllBy "sample2propertyset" "property_set_id" [id]) "sample_id"
    return Target.ofIds .sample samples
  | process id => .ok (Target.ofIds .process [id])
  | project id => .ok (Target.ofIds .project [id])
  | user id => .ok (Target.ofIds .user [id])
  | note id => do
    let rows ← src.allRows (.getAllBy "note2item" "note_id" [id])
    fileTargets src (filesAmong rows)
  | noteItem type id => if type = fileItem then fileTargets src [id] else .ok []
  | tag type id => if type = fileItem then fileTargets src [id] else .ok []

end ChangeEvent

/-! ## 2. Following changes -/

namespace Indexers

variable {σ : Type}

/-- Runs targets in order, up to the first that fails. -/
def runAll (x : Indexers) (b : Backend σ) :
    List Target → σ → Except Failure (List Report) × σ
  | [], state => (.ok [], state)
  | t :: rest, state =>
    match x.run b t.kind (.ofIds t.ids) state with
    | (.error f, state) => (.error f, state)
    | (.ok report, state) =>
      match x.runAll b rest state with
      | (.error f, state) => (.error f, state)
      | (.ok reports, state) => (.ok (report :: reports), state)

/-- Follows a change. -/
def apply (x : Indexers) (b : Backend σ) (e : ChangeEvent) (state : σ) :
    Except Failure (List Report) × σ :=
  match e.plan x.source with
  | .error f => (.error f, state)
  | .ok targets => x.runAll b targets state

end Indexers

end LabIndex
