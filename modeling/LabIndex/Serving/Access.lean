import LabIndex.Document.Parts
import LabIndex.Store.Source

/-!
# Who may see which file

A key opens every file if some user has it; the empty key opens none, whatever the table of users
holds. What a file is served as is in the file's own row.

* `lookUp`: the record of a file, for someone with a key.
-/

namespace LabIndex.Serving

open Shape

/-! ## 1. File records -/

/-- What is known of a file that is to be served. -/
structure FileRecord where
  id : String
  name : String
  mediaType : MediaType
  usesId : String
  size : Int
deriving DecidableEq, Repr

namespace FileRecord

/-- The fields of a file record. -/
def shape : Record := ⟨"FileRecord",
  [need "id" text, slot "name" text, slot "mediatype" MediaType.read, slot "usesid" text,
    slot "size" Shape.size]⟩

/-- Reads a file record. -/
def read : Reader FileRecord := record shape fun g => do
  return {
    id := ← g.required "id" text
    name := ← g.optional "name" text ""
    mediaType := ← g.optional "mediatype" MediaType.read {}
    usesId := ← g.optional "usesid" text ""
    size := ← g.optional "size" Shape.size 0 }

end FileRecord

/-! ## 2. Looking up -/

/-- The first row of a query. A failure that stops the reading counts only where no row came. -/
def firstRow (src : Source) (q : Query) : Except Failure (Option Json) :=
  match src.execute q with
  | .error f => .error f
  | .ok c =>
    match c.rows, c.failure with
    | row :: _, _ => .ok (some row)
    | [], some f => .error f
    | [], none => .ok none

/-- Someone who looks up files: given a key and an id. -/
abbrev FileAccess := String → String → Except Failure FileRecord

/-- The record of a file in a source, for someone with a key. -/
def lookUp (src : Source) : FileAccess := fun key id => do
  if key.isEmpty then throw .noAccess
  match ← firstRow src (.getAllBy "users" "apikey" [key]) with
  | none => throw .noAccess
  | some _ =>
    match ← firstRow src (.get "datafiles" [id]) with
    | none => throw (.fileNotFound id)
    | some row =>
      match FileRecord.read row with
      | .ok file => return file
      | .error m => throw (.json m.message)

/-- One file that everyone may see. -/
def grant (file : FileRecord) : FileAccess := fun _ id =>
  if id = file.id then .ok file else .error (.fileNotFound id)

end LabIndex.Serving
