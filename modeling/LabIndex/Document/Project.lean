import LabIndex.Document.Parts

/-!
# Project and user documents

The two kinds that are indexed straight from their tables. A user document has no field for a
password or an access key, so neither can reach the index.
-/

namespace LabIndex

open Shape

/-! ## 1. Projects -/

/-- A project in the index. -/
structure ProjectDocument where
  id : String
  discriminant : String
  name : String
  description : String
  datadir : String
  owner : String
  birthtime : Option Timestamp
  mtime : Option Timestamp
deriving DecidableEq, Repr, Inhabited

namespace ProjectDocument

/-- The fields of a project document. -/
def shape : Record := ⟨"ProjectDocument",
  [need "id" text, slot "_type" text, slot "name" text, slot "description" text,
    slot "datadir" text, slot "owner" text, slot "birthtime" date, slot "mtime" date]⟩

/-- Builds a project document from its fields. -/
def build (g : Given) : Except Mismatch ProjectDocument := do
  return {
    id := ← g.required "id" text
    discriminant := ← g.optional "_type" text "project"
    name := ← g.optional "name" text ""
    description := ← g.optional "description" text ""
    datadir := ← g.optional "datadir" text ""
    owner := ← g.optional "owner" text ""
    birthtime := ← g.optional "birthtime" date none
    mtime := ← g.optional "mtime" date none }

/-- Reads a project document. -/
def read : Reader ProjectDocument := record shape build

/-- Writes a project document. -/
def toJson (d : ProjectDocument) : Json := .obj [
  ("_type", .str d.discriminant),
  ("birthtime", dateJson d.birthtime),
  ("datadir", .str d.datadir),
  ("description", .str d.description),
  ("id", .str d.id),
  ("mtime", dateJson d.mtime),
  ("name", .str d.name),
  ("owner", .str d.owner)]

end ProjectDocument

/-! ## 2. Users -/

/-- A user in the index. -/
structure UserDocument where
  id : String
  discriminant : String
  email : String
  fullname : String
  admin : Bool
  avatar : String
  description : String
  affiliation : String
  homepage : String
  birthtime : Option Timestamp
  mtime : Option Timestamp
deriving DecidableEq, Repr, Inhabited

namespace UserDocument

/-- The fields of a user document. -/
def shape : Record := ⟨"UserDocument",
  [need "id" text, slot "_type" text, slot "email" text, slot "fullname" text,
    slot "admin" truth, slot "avatar" text, slot "description" text, slot "affiliation" text,
    slot "homepage" text, slot "birthtime" date, slot "mtime" date]⟩

/-- Builds a user document from its fields. -/
def build (g : Given) : Except Mismatch UserDocument := do
  return {
    id := ← g.required "id" text
    discriminant := ← g.optional "_type" text "user"
    email := ← g.optional "email" text ""
    fullname := ← g.optional "fullname" text ""
    admin := ← g.optional "admin" truth false
    avatar := ← g.optional "avatar" text ""
    description := ← g.optional "description" text ""
    affiliation := ← g.optional "affiliation" text ""
    homepage := ← g.optional "homepage" text ""
    birthtime := ← g.optional "birthtime" date none
    mtime := ← g.optional "mtime" date none }

/-- Reads a user document. -/
def read : Reader UserDocument := record shape build

/-- Writes a user document. -/
def toJson (d : UserDocument) : Json := .obj [
  ("_type", .str d.discriminant),
  ("admin", .bool d.admin),
  ("affiliation", .str d.affiliation),
  ("avatar", .str d.avatar),
  ("birthtime", dateJson d.birthtime),
  ("description", .str d.description),
  ("email", .str d.email),
  ("fullname", .str d.fullname),
  ("homepage", .str d.homepage),
  ("id", .str d.id),
  ("mtime", dateJson d.mtime)]

end UserDocument

end LabIndex
