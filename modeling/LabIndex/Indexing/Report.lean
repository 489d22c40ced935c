import LabIndex.Kind
import LabIndex.Failure
import LabIndex.Json.Basic

/-!
# Run reports

What an indexing run did: how many documents it read, how each batch fared, and what stopped the
reading if something did. A run is complete when nothing stopped it and every batch was taken.
-/

namespace LabIndex

/-- The fate of one batch. -/
structure BatchOutcome where
  /-- The ids of its documents, in order. -/
  ids : List String
  committed : Bool
  /-- Why it was not taken. -/
  error : Option String
deriving DecidableEq, Repr, Inhabited

/-- The summary of a run. -/
structure Report where
  kind : Kind
  /-- The documents read. -/
  total : Nat
  batches : List BatchOutcome
  /-- What stopped the reading. -/
  cursorError : Option Failure
deriving DecidableEq, Repr

namespace Report

/-- The number of documents in batches that were taken. -/
def committed (r : Report) : Nat := ((r.batches.filter (·.committed)).flatMap (·.ids)).length

/-- The ids of documents in batches that were not taken. -/
def failedIds (r : Report) : List String := (r.batches.filter (!·.committed)).flatMap (·.ids)

/-- Everything was read and taken. -/
def isComplete (r : Report) : Bool := r.cursorError.isNone && r.batches.all (·.committed)

/-- The failure of a run that left documents out. -/
def failure? (r : Report) : Option Failure :=
  match r.cursorError with
  | some f =>
    some (.incomplete r.kind.label
      ("read stopped after " ++ toString r.total ++ " documents: " ++ f.message))
  | none =>
    let failed := r.failedIds.length
    if failed = 0 then none
    else
      some (.incomplete r.kind.label
        (toString failed ++ " of " ++ toString r.total ++ " documents were not committed"))

/-- A batch's fate as JSON, its fields in the order in which they are printed. -/
def outcomeJson (b : BatchOutcome) : Json :=
  let failed : Fields :=
    match b.error with
    | some e => [("error", .str e)]
    | none => []
  .obj ([("ids", .ofStrings b.ids), ("committed", .bool b.committed)] ++ failed)

/-- A report as JSON, its fields in the order in which they are printed, with the time that the
    run took in milliseconds. -/
def toJson (r : Report) (durationMs : Nat) : Json :=
  let stopped : Fields :=
    match r.cursorError with
    | some f => [("cursor_error", .str f.message)]
    | none => []
  .obj ([("doc_type", .str r.kind.label), ("total", .ofNat r.total),
    ("batches", .arr (r.batches.map outcomeJson))] ++ stopped ++
    [("duration_ms", .ofNat durationMs)])

end Report

end LabIndex
