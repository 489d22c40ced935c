import LabIndex.Store.Query
import LabIndex.Failure

/-!
# Tables and what queries mean on them

A store is a set of named tables, each a list of rows; a row is any JSON value. A query is
evaluated row by row, in order. Keys are compared in *key form*: a string is itself, null and
absent are no key, and any other value is its JSON text.

* A lookup goes through its keys in order and yields the matching rows in table order for each.
* A join pairs each row of its source, in order, with the matching rows of the other table, in
  table order.
* Evaluation fails only where a table is missing, a row has no value for a key, or a pair to be
  zipped is not one of two objects.
-/

namespace LabIndex

/-! ## 1. Rows -/

/-- The key form of a column. -/
def Json.keyForm : Option Json → Option String
  | some (.str s) => some s
  | some .null => none
  | some v => some v.text
  | none => none

/-- The key form of a row's column. -/
def Json.key (row : Json) (column : String) : Option String := Json.keyForm (row.get? column)

namespace Row

/-- Keeps the named columns. What is not an object is kept whole. -/
def pluck (fields : List String) : Json → Json
  | .obj fs =>
    .obj (fields.foldl (fun acc f =>
      match Fields.get? f fs with
      | some v => Fields.put f v acc
      | none => acc) [])
  | v => v

/-- A pair of rows as one value. -/
def pair (left right : Json) : Json := .obj [("left", left), ("right", right)]

/-- The row of a pair: the columns of both, the right one's winning. -/
def zip? (v : Json) : Option Json :=
  match v.get? "left", v.get? "right" with
  | some (.obj left), some (.obj right) => some (.obj (Fields.overlay left right))
  | _, _ => none

/-- The value at a path of keys. -/
def getPath? : List String → Json → Option Json
  | [], v => some v
  | k :: rest, v => (v.get? k).bind (getPath? rest)

/-- Walks down a row and writes a value at a path. Objects that are missing on the way are made as
    the walk comes to them; a value on the way that is no object ends the walk, and the empty path
    leads nowhere. -/
def setPath (value : Json) : List String → Json → Json
  | [k], .obj fs => .obj (Fields.put k value fs)
  | k :: k' :: rest, .obj fs =>
    .obj ((Fields.opened k fs).modify k (setPath value (k' :: rest)))
  | _, v => v

/-- Copies the value at one path to another, if there is one. -/
def copyField (origin target : List String) (row : Json) : Json :=
  match getPath? origin row with
  | some value => setPath value target row
  | none => row

/-- Sets a column to a list. What is not an object has no columns. -/
def attach (name : String) (rows : List Json) : Json → Json
  | .obj fs => .obj (Fields.put name (.arr rows) fs)
  | v => v

end Row

/-! ## 2. Tables -/

/-- Named tables. -/
structure Store where
  tables : List (String × List Json)
deriving Repr, Inhabited

namespace Store

/-- A store without tables. -/
def empty : Store := ⟨[]⟩

/-- The rows of a table, if there is one. -/
def rows? (s : Store) (table : String) : Option (List Json) :=
  (s.tables.find? (·.1 == table)).map (·.2)

/-- Appends rows to a table, making it if need be. -/
def insert (s : Store) (table : String) (rows : List Json) : Store :=
  if s.tables.any (·.1 == table) then
    ⟨s.tables.map fun t => if t.1 == table then (t.1, t.2 ++ rows) else t⟩
  else ⟨s.tables ++ [(table, rows)]⟩

/-- The names of the tables, in order. -/
def names (s : Store) : List String := (s.tables.map (·.1)).mergeSort (· ≤ ·)

/-- A store with these tables. -/
def ofTables (tables : List (String × List Json)) : Store :=
  tables.foldl (fun s t => s.insert t.1 t.2) empty

/-- The rows of a table, or the failure for a missing one. -/
def rows (s : Store) (table : String) : Except Failure (List Json) :=
  match s.rows? table with
  | some rows => .ok rows
  | none => .error (.query ("Table `" ++ table ++ "` does not exist"))

/-! ## 3. Evaluation -/

/-- The text of a lookup key, given the enclosing row. -/
def resolveKey (row : Option Json) : Key → Except Failure String
  | .value s => .ok s
  | .row field =>
    match row.bind (·.key field) with
    | some s => .ok s
    | none => .error (.query ("Row field `" ++ field ++ "` is not available"))

/-- The rows whose column has a key. -/
def withKey (index key : String) (rows : List Json) : List Json :=
  rows.filter fun r => r.key index == some key

/-- The pairs of one row with the rows that it is joined to. -/
def joinRow (field index : String) (rights : List Json) (left : Json) : List Json :=
  match left.key field with
  | some key => (withKey index key rights).map (Row.pair left)
  | none => []

/-- The row of a pair, or the failure for what is no pair. -/
def zipRow (v : Json) : Except Failure Json :=
  match Row.zip? v with
  | some r => .ok r
  | none => .error (.query "zip requires left/right object pairs")

mutual

/-- The rows that a query yields, inside an enclosing row if there is one. -/
def eval (s : Store) (row : Option Json) : Query → Except Failure (List Json)
  | .table name => s.rows name
  | .getAll table index keys => do
    let rows ← s.rows table
    let found ← keys.mapM fun key => do
      return withKey index (← resolveKey row key) rows
    return found.flatten
  | .pluck source fields => do
    return (← eval s row source).map (Row.pluck fields)
  | .eqJoin source field table index => do
    let lefts ← eval s row source
    let rights ← s.rows table
    return lefts.flatMap (joinRow field index rights)
  | .zip source => do (← eval s row source).mapM zipRow
  | .copyField source origin target => do
    return (← eval s row source).map (Row.copyField origin target)
  | .merge source fields => do (← eval s row source).mapM (attachAll s fields)

/-- A row with the results of sub-queries attached, each seeing those before it. -/
def attachAll (s : Store) : List (String × Query) → Json → Except Failure Json
  | [], row => .ok row
  | (name, query) :: rest, row => do
    let nested ← eval s (some row) query
    attachAll s rest (Row.attach name nested row)

end

/-- The rows that a query yields. -/
def query (s : Store) (q : Query) : Except Failure (List Json) := s.eval none q

end Store

end LabIndex
