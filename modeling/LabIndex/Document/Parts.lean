import LabIndex.Document.Shape
import LabIndex.Timestamp.Reader

/-!
# Parts of documents

The small records that documents are made of: media types, tags, notes, properties and setup
values, and the dates. Each has a reader and a writer. A tag is the one part that is read under
another name (`tag_id`) than it is written (`tag`).
-/

namespace LabIndex

open Shape

/-! ## 1. Dates -/

/-- A date, or nothing where the value is null. -/
def Shape.date : Reader (Option Timestamp)
  | .null => .ok none
  | .str s =>
    match Timestamp.parse s with
    | .ok t => .ok (some t)
    | .error e => .error (.other e.message)
  | v => .error (.ofType v "an RFC 3339 formatted date and time string")

/-- A date as a value; no date is null. -/
def dateJson : Option Timestamp → Json
  | none => .null
  | some t => .str t.text

/-! ## 2. Media types -/

/-- The type of a file's contents, with its descriptions. -/
structure MediaType where
  mime : String := ""
  description : String := ""
  mimeDescription : String := ""
deriving DecidableEq, Repr, Inhabited

namespace MediaType

/-- The fields of a media type. -/
def shape : Record := ⟨"MediaType",
  [slot "mime" text, slot "description" text, slot "mime_description" text]⟩

/-- Reads a media type. -/
def read : Reader MediaType := record shape fun g => do
  return {
    mime := ← g.optional "mime" text ""
    description := ← g.optional "description" text ""
    mimeDescription := ← g.optional "mime_description" text "" }

/-- Writes a media type. -/
def toJson (m : MediaType) : Json := .obj [
  ("description", .str m.description),
  ("mime", .str m.mime),
  ("mime_description", .str m.mimeDescription)]

end MediaType

/-! ## 3. Tags and notes -/

/-- A tag on an item. -/
structure Tag where
  id : String
deriving DecidableEq, Repr, Inhabited

namespace Tag

/-- The field of a tag. -/
def shape : Record := ⟨"TagRef", [need "tag_id" text]⟩

/-- Reads a tag. -/
def read : Reader Tag := record shape fun g => do
  return { id := ← g.required "tag_id" text }

/-- Writes a tag. -/
def toJson (t : Tag) : Json := .obj [("tag", .str t.id)]

end Tag

/-- A note on an item. -/
structure Note where
  id : String := ""
  note : String := ""
  title : String := ""
deriving DecidableEq, Repr, Inhabited

namespace Note

/-- The fields of a note. -/
def shape : Record := ⟨"Note", [slot "id" text, slot "note" text, slot "title" text]⟩

/-- Reads a note. -/
def read : Reader Note := record shape fun g => do
  return {
    id := ← g.optional "id" text ""
    note := ← g.optional "note" text ""
    title := ← g.optional "title" text "" }

/-- Writes a note. -/
def toJson (n : Note) : Json := .obj [
  ("id", .str n.id),
  ("note", .str n.note),
  ("title", .str n.title)]

end Note

/-! ## 4. Properties -/

/-- A property of a sample. -/
structure Property where
  attr : String := ""
  name : String := ""
deriving DecidableEq, Repr, Inhabited

namespace Property

/-- The fields of a property. -/
def shape : Record := ⟨"Property", [slot "attribute" text, slot "name" text]⟩

/-- Reads a property. -/
def read : Reader Property := record shape fun g => do
  return {
    attr := ← g.optional "attribute" text ""
    name := ← g.optional "name" text "" }

/-- Writes a property. -/
def toJson (p : Property) : Json := .obj [
  ("attribute", .str p.attr),
  ("name", .str p.name)]

end Property

/-- A value in the setup of a process; the value itself is any JSON. -/
structure SetupProperty where
  attr : String := ""
  description : String := ""
  name : String := ""
  units : String := ""
  value : Json := .null
deriving Repr, Inhabited

namespace SetupProperty

/-- The fields of a setup value. -/
def shape : Record := ⟨"SetupProperty",
  [slot "attribute" text, slot "description" text, slot "name" text, slot "units" text,
    slot "value" anything]⟩

/-- Reads a setup value. -/
def read : Reader SetupProperty := record shape fun g => do
  return {
    attr := ← g.optional "attribute" text ""
    description := ← g.optional "description" text ""
    name := ← g.optional "name" text ""
    units := ← g.optional "units" text ""
    value := ← g.optional "value" anything .null }

/-- Writes a setup value. -/
def toJson (p : SetupProperty) : Json := .obj [
  ("attribute", .str p.attr),
  ("description", .str p.description),
  ("name", .str p.name),
  ("units", .str p.units),
  ("value", p.value)]

end SetupProperty

/-! ## 5. Where a file's bytes are -/

/-- The identity of a file's bytes. A file with an alias shares the bytes of another entry, and
    the alias alone locates them. -/
structure FileIdentity where
  id : String
  usesId : Option String
deriving DecidableEq, Repr

namespace FileIdentity

/-- The identity of an entry with this alias column; the empty text is no alias. -/
def of (id usesId : String) : FileIdentity := ⟨id, if usesId = "" then none else some usesId⟩

/-- The identifier that locates the bytes. -/
def effective (i : FileIdentity) : String := i.usesId.getD i.id

end FileIdentity

end LabIndex
