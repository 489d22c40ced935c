import LabIndex.Document.Parts

/-!
# Sample documents

A sample with its properties and the files linked to it, each with its text.
-/

namespace LabIndex

open Shape

/-! ## 1. Linked files -/

/-- A file inside a sample document. -/
structure SampleFile where
  datafileId : String
  name : String
  mediaType : MediaType
  size : Int
  usesId : String
  tags : List Tag
  notes : List Note
  contents : String
deriving DecidableEq, Repr, Inhabited

namespace SampleFile

/-- The fields of a linked file. -/
def shape : Record := ⟨"SampleFile",
  [need "datafile_id" text, slot "name" text, slot "mediatype" MediaType.read,
    slot "size" Shape.size, slot "usesid" text, slot "tags" (listOf Tag.read),
    slot "notes" (listOf Note.read), slot "contents" text]⟩

/-- Builds a linked file from its fields. -/
def build (g : Given) : Except Mismatch SampleFile := do
  return {
    datafileId := ← g.required "datafile_id" text
    name := ← g.optional "name" text ""
    mediaType := ← g.optional "mediatype" MediaType.read {}
    size := ← g.optional "size" Shape.size 0
    usesId := ← g.optional "usesid" text ""
    tags := ← g.optional "tags" (listOf Tag.read) []
    notes := ← g.optional "notes" (listOf Note.read) []
    contents := ← g.optional "contents" text "" }

/-- Reads a linked file. -/
def read : Reader SampleFile := record shape build

/-- Writes a linked file. -/
def toJson (f : SampleFile) : Json := .obj [
  ("contents", .str f.contents),
  ("datafile_id", .str f.datafileId),
  ("mediatype", f.mediaType.toJson),
  ("name", .str f.name),
  ("notes", .arr (f.notes.map Note.toJson)),
  ("size", .ofInt f.size),
  ("tags", .arr (f.tags.map Tag.toJson)),
  ("usesid", .str f.usesId)]

/-- The identity of the file's bytes. -/
def identity (f : SampleFile) : FileIdentity := .of f.datafileId f.usesId

end SampleFile

/-! ## 2. Samples -/

/-- A sample in the index. -/
structure SampleDocument where
  id : String
  discriminant : String
  sampleId : String
  name : String
  description : String
  owner : String
  projectId : String
  birthtime : Option Timestamp
  mtime : Option Timestamp
  properties : List Property
  files : List SampleFile
deriving DecidableEq, Repr, Inhabited

namespace SampleDocument

/-- The fields of a sample document. -/
def shape : Record := ⟨"SampleDocument",
  [slot "id" text, slot "otype" text, need "sample_id" text, slot "name" text,
    slot "description" text, slot "owner" text, slot "project_id" text, slot "birthtime" date,
    slot "mtime" date, slot "properties" (listOf Property.read),
    slot "files" (listOf SampleFile.read)]⟩

/-- Builds a sample document from its fields. -/
def build (g : Given) : Except Mismatch SampleDocument := do
  return {
    id := ← g.optional "id" text ""
    discriminant := ← g.optional "otype" text "sample"
    sampleId := ← g.required "sample_id" text
    name := ← g.optional "name" text ""
    description := ← g.optional "description" text ""
    owner := ← g.optional "owner" text ""
    projectId := ← g.optional "project_id" text ""
    birthtime := ← g.optional "birthtime" date none
    mtime := ← g.optional "mtime" date none
    properties := ← g.optional "properties" (listOf Property.read) []
    files := ← g.optional "files" (listOf SampleFile.read) [] }

/-- Reads a sample document. -/
def read : Reader SampleDocument := record shape build

/-- Writes a sample document. -/
def toJson (d : SampleDocument) : Json := .obj [
  ("birthtime", dateJson d.birthtime),
  ("description", .str d.description),
  ("files", .arr (d.files.map SampleFile.toJson)),
  ("id", .str d.id),
  ("mtime", dateJson d.mtime),
  ("name", .str d.name),
  ("otype", .str d.discriminant),
  ("owner", .str d.owner),
  ("project_id", .str d.projectId),
  ("properties", .arr (d.properties.map Property.toJson)),
  ("sample_id", .str d.sampleId)]

end SampleDocument

end LabIndex
