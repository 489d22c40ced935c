import LabIndex.Json.Printer

/-!
# Shapes of JSON values

Rows and messages are JSON; what is made of them are texts, numbers, lists and records. A record
is given either by its fields' names, where names that mean nothing to it are passed over, or as
a list in the order in which it declares its fields.

* Of several bad fields given by name the first in the order of the keys is reported, and a
  missing one only when all others are good.
* In a list the fields are read in the order of declaration, and a list that is too long is
  refused at the end.
-/

namespace LabIndex

/-! ## 1. Mismatches -/

/-- Why a value does not have the shape asked for. -/
inductive Mismatch where
  /-- A record has no such field. -/
  | missingField (name : String)
  /-- A value of another type. -/
  | wrongType (found expected : String)
  /-- The right type, but not a value of it that counts. -/
  | wrongValue (found expected : String)
  /-- A list of the wrong length. -/
  | wrongLength (length : Nat) (expected : String)
  /-- A name outside a closed list. -/
  | unknownVariant (name : String) (variants : List String)
  /-- Any other reason, in words. -/
  | other (reason : String)
deriving DecidableEq, Repr

/-- A closed list of names in words. -/
def nameChoices : List String → String
  | [] => "there are no variants"
  | [a] => "expected `" ++ a ++ "`"
  | [a, b] => "expected `" ++ a ++ "` or `" ++ b ++ "`"
  | names => "expected one of " ++ ", ".intercalate (names.map fun n => "`" ++ n ++ "`")

/-- The message of a mismatch. -/
def Mismatch.message : Mismatch → String
  | missingField name => "missing field `" ++ name ++ "`"
  | wrongType found expected => "invalid type: " ++ found ++ ", expected " ++ expected
  | wrongValue found expected => "invalid value: " ++ found ++ ", expected " ++ expected
  | wrongLength length expected =>
    "invalid length " ++ toString length ++ ", expected " ++ expected
  | unknownVariant name variants =>
    "unknown variant `" ++ name ++ "`, " ++ nameChoices variants
  | other reason => reason

/-- A value in a few words, for messages. -/
def Json.summary : Json → String
  | .null => "null"
  | .bool true => "boolean `true`"
  | .bool false => "boolean `false`"
  | .num (.int n) => "integer `" ++ toString n ++ "`"
  | .num (.double x) => "floating point `" ++ Number.text (.double x) ++ "`"
  | .str s => "string " ++ Text.quoted s
  | .arr _ => "sequence"
  | .obj _ => "map"

/-- The mismatch of a value that has another type than the one asked for. -/
def Mismatch.ofType (v : Json) (expected : String) : Mismatch := .wrongType v.summary expected

/-! ## 2. Single values -/

namespace Shape

/-- A reader of values. -/
abbrev Reader (α : Type) := Json → Except Mismatch α

/-- What is wrong with a value, if anything. -/
def fault {α : Type} (read : Reader α) (v : Json) : Option Mismatch :=
  match read v with
  | .ok _ => none
  | .error m => some m

/-- Any value. -/
def anything : Reader Json := .ok

/-- A text. -/
def text : Reader String
  | .str s => .ok s
  | v => .error (.ofType v "a string")

/-- A truth value. -/
def truth : Reader Bool
  | .bool b => .ok b
  | v => .error (.ofType v "a boolean")

/-- A whole number from `low` to `high`; `expected` names the range. -/
def wholeNumber (low high : Int) (expected : String) : Reader Int
  | .num (.int n) =>
    if low ≤ n ∧ n ≤ high then .ok n
    else .error (.wrongValue (Json.summary (.num (.int n))) expected)
  | v => .error (.ofType v expected)

/-- A size: 64 bits with sign. -/
def size : Reader Int := wholeNumber (-0x8000000000000000) 0x7FFFFFFFFFFFFFFF "i64"

/-- Reads every element of a list, in order. -/
def elements {α : Type} (read : Reader α) : List Json → Except Mismatch (List α)
  | [] => .ok []
  | v :: rest =>
    match read v with
    | .error m => .error m
    | .ok x =>
      match elements read rest with
      | .error m => .error m
      | .ok xs => .ok (x :: xs)

/-- A list. -/
def listOf {α : Type} (read : Reader α) : Reader (List α)
  | .arr items => elements read items
  | v => .error (.ofType v "a sequence")

/-! ## 3. Records -/

/-- A field of a record: its name, whether it has to be there, and what is wrong with a value for
    it. -/
structure Slot where
  name : String
  needed : Bool
  fault : Json → Option Mismatch

/-- A record: its name in messages and its fields in the order of declaration. -/
structure Record where
  name : String
  slots : List Slot

/-- A field with a default. -/
def slot {α : Type} (name : String) (read : Reader α) : Slot := ⟨name, false, fault read⟩

/-- A field that has to be there. -/
def need {α : Type} (name : String) (read : Reader α) : Slot := ⟨name, true, fault read⟩

namespace Record

/-- The number of fields, in words. -/
def lengthText (r : Record) : String :=
  "struct " ++ r.name ++ " with " ++ toString r.slots.length ++
    (if r.slots.length = 1 then " element" else " elements")

/-- The first bad field among fields given by name, in the order of the keys. -/
def firstFault (slots : List Slot) : Fields → Option Mismatch
  | [] => none
  | (k, v) :: rest =>
    match slots.find? (·.name == k) with
    | some s =>
      match s.fault v with
      | some m => some m
      | none => firstFault slots rest
    | none => firstFault slots rest

/-- The first field that has to be there and is not, in the order of declaration. -/
def firstMissing (fs : Fields) : List Slot → Option Mismatch
  | [] => none
  | s :: rest =>
    if s.needed && (Fields.get? s.name fs).isNone then some (.missingField s.name)
    else firstMissing fs rest

/-- What is wrong with fields given by position, the first of them at position `i`. -/
def positionFault (r : Record) (total i : Nat) : List Slot → List Json → Option Mismatch
  | [], [] => none
  | [], _ :: _ => some (.wrongLength total "fewer elements in array")
  | s :: slots, [] =>
    if s.needed then some (.wrongLength i r.lengthText)
    else positionFault r total (i + 1) slots []
  | s :: slots, v :: items =>
    match s.fault v with
    | some m => some m
    | none => positionFault r total (i + 1) slots items

/-- What is wrong with a value for a record, if anything. -/
def fault (r : Record) : Json → Option Mismatch
  | .obj fs =>
    match firstFault r.slots fs with
    | some m => some m
    | none => firstMissing fs r.slots
  | .arr items => r.positionFault items.length 0 r.slots items
  | v => some (.ofType v ("struct " ++ r.name))

/-- The value given for a field, by name or by position. -/
def value? (r : Record) (v : Json) (name : String) : Option Json :=
  match v with
  | .obj fs => Fields.get? name fs
  | .arr items => items[r.slots.findIdx (·.name == name)]?
  | _ => none

end Record

/-- The values given for the fields of a record. -/
abbrev Given := String → Option Json

namespace Given

/-- A field that has to be there. -/
def required {α : Type} (g : Given) (name : String) (read : Reader α) : Except Mismatch α :=
  match g name with
  | some v => read v
  | none => .error (.missingField name)

/-- A field with a default. -/
def optional {α : Type} (g : Given) (name : String) (read : Reader α) (default : α) :
    Except Mismatch α :=
  match g name with
  | some v => read v
  | none => .ok default

end Given

/-- Reads a record: looks for faults first, then builds it from its fields. -/
def record {α : Type} (r : Record) (build : Given → Except Mismatch α) : Reader α := fun v =>
  match r.fault v with
  | some m => .error m
  | none => build (r.value? v)

/-! ## 4. Variants -/

/-- One of several named variants: the name alone, or an object with the name as its only key and
    the variant's data under it. -/
def variant {α : Type} (read : String → Option Json → Except Mismatch α) : Reader α
  | .str s => read s none
  | .obj [(k, v)] => read k (some v)
  | .obj _ => .error (.wrongValue "map" "map with a single key")
  | v => .error (.ofType v "string or map")

/-- A variant without data; null counts as none. -/
def noData {α : Type} (x : α) : Option Json → Except Mismatch α
  | none => .ok x
  | some .null => .ok x
  | some v => .error (.ofType v "unit")

/-- A variant with one value. -/
def oneValue {α : Type} (read : Reader α) : Option Json → Except Mismatch α
  | none => .error (.wrongType "unit variant" "newtype variant")
  | some v => read v

/-- What is wrong with the data of a variant with named fields. -/
def namedFault (slots : List Slot) : Option Json → Option Mismatch
  | none => some (.wrongType "unit variant" "struct variant")
  | some (.obj fs) => Record.fault ⟨"", slots⟩ (.obj fs)
  | some v => some (.ofType v "struct variant")

end Shape

end LabIndex
