import LabIndex.Document.Shape

/-!
# Queries

A query describes how rows are found in the store: whole tables, lookups by a column, joins,
projections and sub-queries attached to each row. This file holds the language and its spelling as
JSON; what a query means is said in the module on evaluation.
-/

namespace LabIndex

/-- A lookup key: a literal, or the value of a field of the enclosing row. -/
inductive Key where
  | value (s : String)
  | row (field : String)
deriving DecidableEq, Repr

/-- A query. -/
inductive Query where
  /-- Every row of a table. -/
  | table (name : String)
  /-- The rows of a table whose column has one of the keys, key by key. -/
  | getAll (table index : String) (keys : List Key)
  /-- Only the named columns of each row. -/
  | pluck (source : Query) (fields : List String)
  /-- Each row paired with the rows of a table whose column has the value of the row's field. -/
  | eqJoin (source : Query) (field table index : String)
  /-- Pairs made into rows, the right one's columns winning. -/
  | zip (source : Query)
  /-- A value inside each row copied to another place in it. -/
  | copyField (source : Query) (origin target : List String)
  /-- The results of sub-queries attached to each row, in turn. -/
  | merge (source : Query) (fields : List (String × Query))
deriving Repr

namespace Query

/-! ## 1. Building queries -/

/-- A lookup by a column with literal keys. -/
def getAllBy (table index : String) (ids : List String) : Query :=
  .getAll table index (ids.map .value)

/-- A lookup by id. -/
def get (table : String) (ids : List String) : Query := getAllBy table "id" ids

/-- A lookup by a column with the value of a field of the enclosing row. -/
def related (table index rowField : String) : Query := .getAll table index [.row rowField]

/-- A join on the id of the other table. -/
def eqJoinId (source : Query) (field table : String) : Query := .eqJoin source field table "id"

/-! ## 2. Spelling -/

open Shape

/-- Reads a lookup key. -/
def readKey : Reader Key :=
  variant fun name data =>
    if name = "Value" then (oneValue text data).map .value
    else if name = "Row" then (oneValue text data).map .row
    else .error (.unknownVariant name ["Value", "Row"])

/-- The names of the query forms. -/
def forms : List String := ["Table", "GetAll", "Pluck", "EqJoin", "Zip", "CopyField", "Merge"]

/-- The fields of an attached sub-query. -/
def mergeShape (sub : Json → Option Mismatch) : Record :=
  ⟨"MergeField", [need "name" text, ⟨"query", true, sub⟩]⟩

/-- What is wrong with a list whose elements have faults. -/
def listFault (sub : Json → Option Mismatch) : Json → Option Mismatch
  | .arr items => items.findSome? sub
  | v => some (.ofType v "a sequence")

/-- What is wrong with the data of a query form. -/
def formFault (sub : Json → Option Mismatch) (name : String) (data : Option Json) :
    Option Mismatch :=
  let source : Slot := ⟨"source", true, sub⟩
  match name with
  | "Table" =>
    match oneValue text data with
    | .ok _ => none
    | .error m => some m
  | "GetAll" =>
    namedFault [need "table" text, need "index" text, need "keys" (listOf readKey)] data
  | "Pluck" => namedFault [source, need "fields" (listOf text)] data
  | "EqJoin" =>
    namedFault [source, need "field" text, need "table" text, need "index" text] data
  | "Zip" =>
    match data with
    | none => some (.wrongType "unit variant" "newtype variant")
    | some v => sub v
  | "CopyField" =>
    namedFault [source, need "from" (listOf text), need "to" (listOf text)] data
  | "Merge" =>
    namedFault [source, ⟨"fields", true, listFault (mergeShape sub).fault⟩] data
  | _ => some (.unknownVariant name forms)

/-- What is wrong with a query nested at most as deep as the first argument. -/
def faultWithin : Nat → Json → Option Mismatch
  | 0, _ => some (.other "nested too deep")
  | fuel + 1, v =>
    match v with
    | .str s => formFault (faultWithin fuel) s none
    | .obj [(k, d)] => formFault (faultWithin fuel) k (some d)
    | .obj _ => some (.wrongValue "map" "map with a single key")
    | v => some (.ofType v "string or map")

/-- Builds a query form from its data. -/
def buildForm (sub : Reader Query) (name : String) (data : Json) : Except Mismatch Query :=
  let g : Given := fun field => data.get? field
  match name with
  | "Table" => (text data).map .table
  | "GetAll" => do
    return .getAll (← g.required "table" text) (← g.required "index" text)
      (← g.required "keys" (listOf readKey))
  | "Pluck" => do
    return .pluck (← g.required "source" sub) (← g.required "fields" (listOf text))
  | "EqJoin" => do
    return .eqJoin (← g.required "source" sub) (← g.required "field" text)
      (← g.required "table" text) (← g.required "index" text)
  | "Zip" => (sub data).map .zip
  | "CopyField" => do
    return .copyField (← g.required "source" sub) (← g.required "from" (listOf text))
      (← g.required "to" (listOf text))
  | "Merge" => do
    let shape := mergeShape fun _ => none
    let mergeField : Reader (String × Query) := fun v => do
      let g : Given := shape.value? v
      return (← g.required "name" text, ← g.required "query" sub)
    return .merge (← g.required "source" sub) (← g.required "fields" (listOf mergeField))
  | _ => .error (.unknownVariant name forms)

/-- Builds a query nested at most as deep as the first argument from a value without fault. -/
def buildWithin : Nat → Reader Query
  | 0, _ => .error (.other "nested too deep")
  | fuel + 1, v =>
    match v with
    | .obj [(k, d)] => buildForm (buildWithin fuel) k d
    | v => .error (.ofType v "map")

end Query

/-- Reads a query. -/
def Query.read : Shape.Reader Query := fun v =>
  match Query.faultWithin (v.depth + 1) v with
  | some m => .error m
  | none => Query.buildWithin (v.depth + 1) v

end LabIndex
