import LabIndex.Document.Parts

/-!
# File documents

A data file with its directory, tags and notes. `contents` is text extracted from the file's
bytes; it is there for searching.
-/

namespace LabIndex

open Shape

/-- A data file in the index. -/
structure FileDocument where
  id : String
  discriminant : String
  name : String
  path : String
  description : String
  mediaType : MediaType
  owner : String
  checksum : String
  size : Int
  current : Bool
  parent : String
  usesId : String
  birthtime : Option Timestamp
  mtime : Option Timestamp
  datadirId : String
  projectId : String
  tags : List Tag
  notes : List Note
  contents : String
deriving DecidableEq, Repr, Inhabited

namespace FileDocument

/-- The fields of a file document. -/
def shape : Record := ⟨"FileDocument",
  [need "id" text, slot "otype" text, slot "name" text, slot "path" text, slot "description" text,
    slot "mediatype" MediaType.read, slot "owner" text, slot "checksum" text,
    slot "size" Shape.size, slot "current" truth, slot "parent" text, slot "usesid" text,
    slot "birthtime" date, slot "mtime" date, slot "datadir_id" text, slot "project_id" text,
    slot "tags" (listOf Tag.read), slot "notes" (listOf Note.read), slot "contents" text]⟩

/-- Builds a file document from its fields. -/
def build (g : Given) : Except Mismatch FileDocument := do
  return {
    id := ← g.required "id" text
    discriminant := ← g.optional "otype" text "datafile"
    name := ← g.optional "name" text ""
    path := ← g.optional "path" text ""
    description := ← g.optional "description" text ""
    mediaType := ← g.optional "mediatype" MediaType.read {}
    owner := ← g.optional "owner" text ""
    checksum := ← g.optional "checksum" text ""
    size := ← g.optional "size" Shape.size 0
    current := ← g.optional "current" truth false
    parent := ← g.optional "parent" text ""
    usesId := ← g.optional "usesid" text ""
    birthtime := ← g.optional "birthtime" date none
    mtime := ← g.optional "mtime" date none
    datadirId := ← g.optional "datadir_id" text ""
    projectId := ← g.optional "project_id" text ""
    tags := ← g.optional "tags" (listOf Tag.read) []
    notes := ← g.optional "notes" (listOf Note.read) []
    contents := ← g.optional "contents" text "" }

/-- Reads a file document. -/
def read : Reader FileDocument := record shape build

/-- Writes a file document. -/
def toJson (d : FileDocument) : Json := .obj [
  ("birthtime", dateJson d.birthtime),
  ("checksum", .str d.checksum),
  ("contents", .str d.contents),
  ("current", .bool d.current),
  ("datadir_id", .str d.datadirId),
  ("description", .str d.description),
  ("id", .str d.id),
  ("mediatype", d.mediaType.toJson),
  ("mtime", dateJson d.mtime),
  ("name", .str d.name),
  ("notes", .arr (d.notes.map Note.toJson)),
  ("otype", .str d.discriminant),
  ("owner", .str d.owner),
  ("parent", .str d.parent),
  ("path", .str d.path),
  ("project_id", .str d.projectId),
  ("size", .ofInt d.size),
  ("tags", .arr (d.tags.map Tag.toJson)),
  ("usesid", .str d.usesId)]

/-- The identity of the file's bytes. -/
def identity (d : FileDocument) : FileIdentity := .of d.id d.usesId

end FileDocument

end LabIndex
