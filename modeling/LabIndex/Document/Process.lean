import LabIndex.Document.Parts

/-!
# Process documents

A process with its setup. The id of its own row is read and not written.
-/

namespace LabIndex

open Shape

/-- A process in the index. -/
structure ProcessDocument where
  id : String
  discriminant : String
  processId : String
  name : String
  processType : String
  doesTransform : Bool
  owner : String
  projectId : String
  what : String
  why : String
  birthtime : Option Timestamp
  mtime : Option Timestamp
  setup : List SetupProperty
deriving Repr, Inhabited

namespace ProcessDocument

/-- The fields of a process document. -/
def shape : Record := ⟨"ProcessDocument",
  [slot "id" text, slot "_type" text, need "process_id" text, slot "name" text,
    slot "process_type" text, slot "does_transform" truth, slot "owner" text,
    slot "project_id" text, slot "what" text, slot "why" text, slot "birthtime" date,
    slot "mtime" date, slot "setup" (listOf SetupProperty.read)]⟩

/-- Builds a process document from its fields. -/
def build (g : Given) : Except Mismatch ProcessDocument := do
  return {
    id := ← g.optional "id" text ""
    discriminant := ← g.optional "_type" text "process"
    processId := ← g.required "process_id" text
    name := ← g.optional "name" text ""
    processType := ← g.optional "process_type" text ""
    doesTransform := ← g.optional "does_transform" truth false
    owner := ← g.optional "owner" text ""
    projectId := ← g.optional "project_id" text ""
    what := ← g.optional "what" text ""
    why := ← g.optional "why" text ""
    birthtime := ← g.optional "birthtime" date none
    mtime := ← g.optional "mtime" date none
    setup := ← g.optional "setup" (listOf SetupProperty.read) [] }

/-- Reads a process document. -/
def read : Reader ProcessDocument := record shape build

/-- Writes a process document. -/
def toJson (d : ProcessDocument) : Json := .obj [
  ("_type", .str d.discriminant),
  ("birthtime", dateJson d.birthtime),
  ("does_transform", .bool d.doesTransform),
  ("mtime", dateJson d.mtime),
  ("name", .str d.name),
  ("owner", .str d.owner),
  ("process_id", .str d.processId),
  ("process_type", .str d.processType),
  ("project_id", .str d.projectId),
  ("setup", .arr (d.setup.map SetupProperty.toJson)),
  ("what", .str d.what),
  ("why", .str d.why)]

end ProcessDocument

end LabIndex
