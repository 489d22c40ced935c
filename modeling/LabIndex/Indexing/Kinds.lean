import LabIndex.Content.Extraction
import LabIndex.Indexing.Run
import LabIndex.Settings.Basic

/-!
# The five kinds of runs

For each kind: which rows make its documents, and what is added to a document. A run covers
everything or a list of ids.

* Files, samples and processes are reached through the table that links them to projects: from the
  projects when everything is run, by the linked id otherwise. Projects and users are read from
  their own tables.
* A file document gets its directory's name as its path, its tags and notes, and the text of its
  contents. A sample document gets its properties and its files, each with its text. A process
  document gets its setup.
-/

namespace LabIndex

/-! ## 1. Scopes -/

/-- Which entities a run covers. -/
inductive Scope where
  | all
  | one (id : String)
  | many (ids : List String)
deriving DecidableEq, Repr

namespace Scope

/-- The scope for a list of ids that someone names; naming none means everything. -/
def ofIds : List String → Scope
  | [] => .all
  | [id] => .one id
  | ids => .many ids

/-- The ids of a scope that does not cover everything. -/
def ids? : Scope → Option (List String)
  | .all => none
  | .one id => some [id]
  | .many ids => some ids

end Scope

/-! ## 2. Queries -/

namespace Kind

/-- The link rows of a kind: with their project's id when everything is wanted, by the linked id
    otherwise. -/
def membership (table linkColumn : String) (scope : Scope) : Query :=
  match scope.ids? with
  | none => .zip (.eqJoin (.pluck (.table "projects") ["id"]) "id" table "project_id")
  | some ids => .getAllBy table linkColumn ids

/-- The tags and notes of a file. -/
def tagsAndNotes : List (String × Query) := [
  ("tags", .pluck (.related "tag2item" "item_id" "id") ["tag_id"]),
  ("notes", .zip (.eqJoinId (.related "note2item" "item_id" "id") "note_id" "notes"))]

/-- The properties and files of a sample. -/
def propertiesAndFiles : List (String × Query) := [
  ("properties",
    .pluck
      (.zip (.eqJoinId
        (.zip (.eqJoin (.related "sample2propertyset" "sample_id" "sample_id")
          "property_set_id" "propertyset2property" "property_set_id"))
        "property_id" "properties"))
      ["attribute", "name"]),
  ("files", .zip (.eqJoinId (.related "sample2datafile" "sample_id" "sample_id")
    "datafile_id" "datafiles"))]

/-- The setup of a process. -/
def processSetup : List (String × Query) := [
  ("setup", .zip (.eqJoin (.related "process2setup" "process_id" "process_id")
    "setup_id" "setupproperties" "setup_id"))]

/-- The rows that make file documents. -/
def fileQuery (scope : Scope) : Query :=
  let members := membership "project2datafile" "datafile_id" scope
  let directories := Query.zip (.eqJoin members "datafile_id" "datadir2datafile" "datafile_id")
  let paths := Query.copyField (.eqJoinId directories "datadir_id" "datadirs")
    ["right", "name"] ["right", "path"]
  .merge (.zip (.eqJoinId (.zip paths) "datafile_id" "datafiles")) tagsAndNotes

/-- The rows that make sample documents. -/
def sampleQuery (scope : Scope) : Query :=
  .merge (.zip (.eqJoinId (membership "project2sample" "sample_id" scope) "sample_id" "samples"))
    propertiesAndFiles

/-- The rows that make process documents. -/
def processQuery (scope : Scope) : Query :=
  .merge (.zip (.eqJoinId (membership "project2process" "process_id" scope) "process_id"
    "processes")) processSetup

/-- The rows of a table that is indexed as it is. -/
def plainQuery (table : String) (scope : Scope) : Query :=
  match scope.ids? with
  | none => .table table
  | some ids => .get table ids

/-- The rows that make the documents of a kind. -/
def query : Kind → Scope → Query
  | .file => fileQuery
  | .sample => sampleQuery
  | .process => processQuery
  | .project => plainQuery "projects"
  | .user => plainQuery "users"

end Kind

/-! ## 3. Text of contents -/

/-- A document with the text of the files it stands for or embeds. -/
def Document.withContents (x : Extractor) : Document → Document
  | .file d => .file { d with contents := x.textFor d.identity d.mediaType.mime d.size }
  | .sample d => .sample { d with
      files := d.files.map fun f =>
        { f with contents := x.textFor f.identity f.mediaType.mime f.size } }
  | d => d

/-! ## 4. Runs -/

/-- What all runs share: settings, the source of rows and the extractor. -/
structure Indexers where
  settings : IndexingSettings
  source : Source
  extractor : Extractor

namespace Indexers

/-- The run of a kind over a scope. -/
def indexing (x : Indexers) (kind : Kind) (scope : Scope) : Indexing where
  index := x.settings.indexName
  kind := kind
  query := kind.query scope
  maxCount := atLeastOne (x.settings.batchSize kind)
  source := x.source
  enrich := Document.withContents x.extractor

variable {σ : Type}

/-- Runs a kind over a scope. -/
def run (x : Indexers) (b : Backend σ) (kind : Kind) (scope : Scope) (state : σ) :
    Except Failure Report × σ :=
  (x.indexing kind scope).run b state

/-- Runs kinds over everything, up to the first that fails. -/
def runKinds (x : Indexers) (b : Backend σ) :
    List Kind → σ → Except Failure (List Report) × σ
  | [], state => (.ok [], state)
  | kind :: rest, state =>
    match x.run b kind .all state with
    | (.error f, state) => (.error f, state)
    | (.ok report, state) =>
      match x.runKinds b rest state with
      | (.error f, state) => (.error f, state)
      | (.ok reports, state) => (.ok (report :: reports), state)

/-- Runs all kinds over everything. -/
def rebuild (x : Indexers) (b : Backend σ) (state : σ) : Except Failure (List Report) × σ :=
  x.runKinds b Kind.all state

end Indexers

end LabIndex
