import LabIndex.Document.Shape

/-!
# Changes to the store

A change names one row of a table that documents are made from, by the key that the tables
around it use: the row's own id, or the id of the item, file, sample or property set that a link
row belongs to. On paper a change is an object whose field `table` names the table, or a list that
starts with the table's name.
-/

namespace LabIndex

/-- A change to one row. -/
inductive ChangeEvent where
  | file (id : String)
  | projectFile (datafileId : String)
  | sample (id : String)
  | sampleFile (sampleId : String)
  | propertySet (propertySetId : String)
  | process (id : String)
  | project (id : String)
  | user (id : String)
  | note (id : String)
  | noteItem (itemType itemId : String)
  | tag (itemType itemId : String)
deriving DecidableEq, Repr

namespace ChangeEvent

open Shape

/-! ## 1. Forms -/

/-- A form of change: the table, its name in messages and the names of its fields. -/
structure Form where
  table : String
  name : String
  fields : List String

/-- The forms, in the order in which messages list their tables. -/
def forms : List Form := [
  ⟨"datafiles", "File", ["id"]⟩,
  ⟨"project2datafile", "ProjectFile", ["datafile_id"]⟩,
  ⟨"samples", "Sample", ["id"]⟩,
  ⟨"sample2datafile", "SampleFile", ["sample_id"]⟩,
  ⟨"propertyset2property", "PropertySet", ["property_set_id"]⟩,
  ⟨"processes", "Process", ["id"]⟩,
  ⟨"projects", "Project", ["id"]⟩,
  ⟨"users", "User", ["id"]⟩,
  ⟨"notes", "Note", ["id"]⟩,
  ⟨"note2item", "NoteItem", ["item_type", "item_id"]⟩,
  ⟨"tag2item", "Tag", ["item_type", "item_id"]⟩]

/-- The table of a change. -/
def table : ChangeEvent → String
  | file _ => "datafiles"
  | projectFile _ => "project2datafile"
  | sample _ => "samples"
  | sampleFile _ => "sample2datafile"
  | propertySet _ => "propertyset2property"
  | process _ => "processes"
  | project _ => "projects"
  | user _ => "users"
  | note _ => "notes"
  | noteItem _ _ => "note2item"
  | tag _ _ => "tag2item"

/-- The values of a change's fields, in the order of its form. -/
def values : ChangeEvent → List String
  | file id => [id]
  | projectFile id => [id]
  | sample id => [id]
  | sampleFile id => [id]
  | propertySet id => [id]
  | process id => [id]
  | project id => [id]
  | user id => [id]
  | note id => [id]
  | noteItem type id => [type, id]
  | tag type id => [type, id]

/-- The change of a table with these field values. -/
def ofValues? (table : String) (values : List String) : Option ChangeEvent :=
  match table, values with
  | "datafiles", [id] => some (file id)
  | "project2datafile", [id] => some (projectFile id)
  | "samples", [id] => some (sample id)
  | "sample2datafile", [id] => some (sampleFile id)
  | "propertyset2property", [id] => some (propertySet id)
  | "processes", [id] => some (process id)
  | "projects", [id] => some (project id)
  | "users", [id] => some (user id)
  | "notes", [id] => some (note id)
  | "note2item", [type, id] => some (noteItem type id)
  | "tag2item", [type, id] => some (tag type id)
  | _, _ => none

/-- The form of a change. -/
def form? (e : ChangeEvent) : Option Form := forms.find? (·.table == e.table)

/-! ## 2. JSON -/

/-- Writes a change. -/
def toJson (e : ChangeEvent) : Json :=
  let names := (e.form?.map (·.fields)).getD []
  Json.object (("table", .str e.table) :: names.zip (e.values.map .str))

/-- The form of a table named by a value. -/
def readForm : Reader Form
  | .str s =>
    match forms.find? (·.table == s) with
    | some f => .ok f
    | none => .error (.unknownVariant s (forms.map (·.table)))
  | v => .error (.ofType v "variant identifier")

/-- The fields of a form as a record. -/
def Form.shape (f : Form) : Record :=
  ⟨"variant ChangeEvent::" ++ f.name, f.fields.map fun name => need name text⟩

/-- Reads the fields of a form. -/
def readFields (f : Form) (v : Json) : Except Mismatch ChangeEvent := do
  let r := f.shape
  let values ← f.fields.mapM fun name => Given.required (r.value? v) name text
  match ofValues? f.table values with
  | some e => return e
  | none => throw (.missingField "table")

/-- What is wrong with fields given by position, of which there may be too many. -/
def listFault (r : Record) (items : List Json) : Option Mismatch :=
  let count := r.slots.length
  match r.fault (.arr (items.take count)) with
  | some m => some m
  | none =>
    if count < items.length then
      some (.wrongLength items.length
        (toString count ++ (if count = 1 then " element" else " elements") ++ " in sequence"))
    else none

/-- Reads a change. -/
def read : Reader ChangeEvent
  | .obj fs =>
    match Fields.get? "table" fs with
    | none => .error (.missingField "table")
    | some name => do
      let f ← readForm name
      let rest := Json.obj (Fields.erase "table" fs)
      match f.shape.fault rest with
      | some m => throw m
      | none => readFields f rest
  | .arr [] => .error (.missingField "table")
  | .arr (name :: items) => do
    let f ← readForm name
    match listFault f.shape items with
    | some m => throw m
    | none => readFields f (.arr items)
  | v => .error (.ofType v "internally tagged enum ChangeEvent")

/-! ## 3. In messages -/

/-- A change in one line. -/
def summary (e : ChangeEvent) : String :=
  match e.form? with
  | none => ""
  | some f =>
    let fields := (f.fields.zip e.values).map fun p => p.1 ++ ": " ++ Text.quoted p.2
    f.name ++ " \x7b " ++ ", ".intercalate fields ++ " \x7d"

end ChangeEvent

end LabIndex
