import LabIndex.Document.Shape
import LabIndex.Search.Index

/-!
# Saved indexes

An index as a text, for the time between two runs of the program: a JSON list of its documents with
their keys, the oldest first.

* `Index.savedText`: the text of an index;
* `Index.ofSaved?`: the index that a text holds.
-/

namespace LabIndex.Search

open Shape

namespace Saved

/-- A document with its key. -/
def requestJson (r : Request) : Json :=
  .obj [("document", r.document), ("id", .str r.id), ("index", .str r.index),
    ("kind", .str r.kind.label)]

/-- Reads a kind by its label. -/
def kind : Reader Kind := fun v => do
  let label ← text v
  match Kind.ofLabel? label with
  | some k => return k
  | none => throw (.unknownVariant label Kind.labels)

/-- The fields of a saved document. -/
def shape : Record := ⟨"Document",
  [need "document" anything, need "id" text, need "index" text, need "kind" kind]⟩

/-- Reads a document with its key. -/
def request : Reader Request := record shape fun g => do
  return {
    document := ← g.required "document" anything
    id := ← g.required "id" text
    index := ← g.required "index" text
    kind := ← g.required "kind" kind }

end Saved

namespace Index

/-- The text of an index. -/
def savedText (x : Index) : String := (Json.arr (x.map Saved.requestJson)).text

/-- The index that a text holds. -/
def ofSaved? (s : String) : Option Index :=
  match Json.parse? s with
  | none => none
  | some v =>
    match listOf Saved.request v with
    | .ok x => some x
    | .error _ => none

end Index

end LabIndex.Search
