import LabIndex.Toml.Scalar

/-!
# TOML documents

A document is a list of keys with values, in sections that headers open. It is read into one JSON
object.

* A key may be set once. A dotted key makes tables on its way, which only dotted keys may add to.
* A header opens a table, which may be done once, or appends one to a list of tables. A table that
  only lies on the way of a header may still be opened.
* A table or a list written as a value is complete: nothing can be added to it.
-/

namespace LabIndex.Toml

/-! ## 1. Tables under construction -/

/-- What a key stands for while a document is read. -/
inductive Item where
  | value (v : Json)
  /-- A table: whether it was only made on the way to another, and whether by a dotted key. -/
  | table (implicit dotted : Bool) (entries : List (String × Item))
  /-- A list of tables, the last one first. -/
  | tables (all : List (List (String × Item)))

/-- The keys of a table and what they stand for. -/
abbrev Items := List (String × Item)

namespace Items

/-- What a key stands for. -/
def find? (key : String) : Items → Option Item
  | [] => none
  | (k, item) :: rest => if k = key then some item else find? key rest

/-- Sets what a key stands for. -/
def set (key : String) (item : Item) : Items → Items
  | [] => [(key, item)]
  | (k, old) :: rest => if k = key then (key, item) :: rest else (k, old) :: set key item rest

/-- Sets a key of a table that was reached by a dotted key. -/
def setLast (isDotted : Bool) (key : String) (v : Json) (items : Items) : Option Items :=
  if isDotted && (find? key items).isNone then some (set key (.value v) items) else none

/-- Goes down a dotted key and sets its last part. -/
def setDotted (isDotted : Bool) (v : Json) : List String → String → Items → Option Items
  | [], key, items => setLast isDotted key v items
  | part :: rest, key, items =>
    match find? part items with
    | none =>
      (setDotted true v rest key []).map fun inner => set part (.table true true inner) items
    | some (.table implicit dotted inner) =>
      if implicit then
        (setDotted dotted v rest key inner).map fun inner =>
          set part (.table implicit dotted inner) items
      else none
    | some (.tables (last :: others)) =>
      (setDotted false v rest key last).map fun last => set part (.tables (last :: others)) items
    | some _ => none

/-- Sets a key, given as its parts. -/
def setKey (v : Json) (parts : List String) (items : Items) : Option Items :=
  match parts.reverse with
  | [] => none
  | [key] => setLast true key v items
  | key :: rest => setDotted false v rest.reverse key items

/-- Changes the table that a header's parts lead to; tables missing on the way are made. -/
def change (f : Items → Option Items) : List String → Items → Option Items
  | [], items => f items
  | part :: rest, items =>
    match find? part items with
    | none => (change f rest []).map fun inner => set part (.table true false inner) items
    | some (.table implicit dotted inner) =>
      (change f rest inner).map fun inner => set part (.table implicit dotted inner) items
    | some (.tables (last :: others)) =>
      (change f rest last).map fun last => set part (.tables (last :: others)) items
    | some _ => none

end Items

mutual

/-- A finished item. -/
def Item.toJson : Item → Json
  | .value v => v
  | .table _ _ entries => .obj (itemsToFields entries)
  | .tables all => .arr (tablesToList all [])

/-- The fields of a finished table. -/
def itemsToFields : List (String × Item) → Fields
  | [] => []
  | (k, item) :: rest => Fields.put k item.toJson (itemsToFields rest)

/-- The elements of a finished list of tables, the last one first, before those already there. -/
def tablesToList : List (List (String × Item)) → List Json → List Json
  | [], acc => acc
  | entries :: rest, acc => tablesToList rest (.obj (itemsToFields entries) :: acc)

end

/-! ## 2. Values -/

mutual

/-- Reads a value. The arguments bound the steps and the nesting. -/
def readValue : Nat → Nat → List Char → Option (Json × List Char)
  | 0, _, _ => none
  | fuel + 1, depth, cs =>
    match cs with
    | '"' :: _ => (readString cs).map fun (s, r) => (.str (String.ofList s), r)
    | '\'' :: _ => (readString cs).map fun (s, r) => (.str (String.ofList s), r)
    | 't' :: 'r' :: 'u' :: 'e' :: rest => some (.bool true, rest)
    | 'f' :: 'a' :: 'l' :: 's' :: 'e' :: rest => some (.bool false, rest)
    | '[' :: rest =>
      match depth with
      | 0 => none
      | depth + 1 => (readElements fuel depth rest).map fun (xs, r) => (.arr xs, r)
    | '\x7b' :: rest =>
      match depth with
      | 0 => none
      | depth + 1 =>
        match skipLineBlanks rest with
        | '\x7d' :: rest => some (.obj [], rest)
        | rest => (readPairs fuel depth [] rest).map fun (items, r) =>
          (.obj (itemsToFields items), r)
    | cs => readNumeric cs

/-- Reads the elements of a list up to its closing bracket. -/
def readElements : Nat → Nat → List Char → Option (List Json × List Char)
  | 0, _, _ => none
  | fuel + 1, depth, cs =>
    match skipFiller (cs.length + 1) cs with
    | none => none
    | some (']' :: rest) => some ([], rest)
    | some cs =>
      match readValue fuel depth cs with
      | none => none
      | some (v, rest) =>
        match skipFiller (rest.length + 1) rest with
        | some (',' :: rest) =>
          (readElements fuel depth rest).map fun (xs, r) => (v :: xs, r)
        | some (']' :: rest) => some ([v], rest)
        | _ => none

/-- Reads the keys and values of a table up to its closing brace. -/
def readPairs : Nat → Nat → Items → List Char → Option (Items × List Char)
  | 0, _, _, _ => none
  | fuel + 1, depth, items, cs =>
    match readKey cs with
    | some (parts, '=' :: rest) =>
      match readValue fuel depth (skipLineBlanks rest) with
      | none => none
      | some (v, rest) =>
        match Items.setKey v parts items with
        | none => none
        | some items =>
          match skipLineBlanks rest with
          | ',' :: rest => readPairs fuel depth items rest
          | '\x7d' :: rest => some (items, rest)
          | _ => none
    | _ => none

end

/-! ## 3. Documents -/

/-- A document as far as it was read: everything but the open table, and the open table with the
    parts of its header. -/
structure Draft where
  root : Items
  path : List String
  isElement : Bool
  current : Items

namespace Draft

/-- Nothing was read yet; the open table is the whole document. -/
def start : Draft := ⟨[], [], false, []⟩

/-- Splits off the last part of a header. -/
def splitLast (parts : List String) : Option (List String × String) :=
  match parts.reverse with
  | [] => none
  | last :: rest => some (rest.reverse, last)

/-- Puts the open table in its place. -/
def close (d : Draft) : Option Items :=
  match splitLast d.path with
  | none => some d.current
  | some (parents, key) =>
    Items.change (fun items =>
      if d.isElement then
        match Items.find? key items with
        | none => some (Items.set key (.tables [d.current]) items)
        | some (.tables all) => some (Items.set key (.tables (d.current :: all)) items)
        | some _ => none
      else
        match Items.find? key items with
        | none => some (Items.set key (.table false false d.current) items)
        | some _ => none) parents d.root

/-- Opens a table. -/
def openTable (d : Draft) (path : List String) : Option Draft := do
  let root ← d.close
  let (parents, key) ← splitLast path
  -- the table may exist as one that only lay on the way of another header
  let root ← Items.change some parents root
  let existing := lookUp parents root >>= Items.find? key
  match existing with
  | none => return ⟨root, path, false, []⟩
  | some (.table true false inner) =>
    let root ← Items.change (fun items => some (items.filter (·.1 ≠ key))) parents root
    return ⟨root, path, false, inner⟩
  | some _ => none
where
  lookUp : List String → Items → Option Items
    | [], items => some items
    | part :: rest, items =>
      match Items.find? part items with
      | some (.table _ _ inner) => lookUp rest inner
      | some (.tables (last :: _)) => lookUp rest last
      | _ => none

/-- Opens a new table at the end of a list of tables. -/
def openElement (d : Draft) (path : List String) : Option Draft := do
  let root ← d.close
  let (parents, key) ← splitLast path
  let root ← Items.change (fun items =>
    match Items.find? key items with
    | none => some items
    | some (.tables _) => some items
    | some _ => none) parents root
  return ⟨root, path, true, []⟩

end Draft

/-- Reads a header, from behind its first bracket. -/
def readHeader (d : Draft) (cs : List Char) : Option (Draft × List Char) :=
  match cs with
  | '[' :: rest =>
    match readKey rest with
    | some (path, ']' :: ']' :: rest) => do
      let rest ← endOfLine rest
      return (← d.openElement path, rest)
    | _ => none
  | rest =>
    match readKey rest with
    | some (path, ']' :: rest) => do
      let rest ← endOfLine rest
      return (← d.openTable path, rest)
    | _ => none

/-- Reads a key and its value up to the end of the line. -/
def readSetting (d : Draft) (cs : List Char) : Option (Draft × List Char) :=
  match readKey cs with
  | some (parts, '=' :: rest) => do
    let (v, rest) ← readValue (2 * rest.length + 2) (depthLimit - 1) (skipLineBlanks rest)
    let rest ← endOfLine rest
    return ({ d with current := ← Items.setKey v parts d.current }, rest)
  | _ => none

/-- Reads lines up to the end. -/
def readLines : Nat → Draft → List Char → Option Draft
  | 0, _, _ => none
  | fuel + 1, d, cs =>
    match skipLineBlanks cs with
    | [] => some d
    | '#' :: rest => do readLines fuel d (← endOfLine ('#' :: rest))
    | '\n' :: rest => readLines fuel d rest
    | '\r' :: '\n' :: rest => readLines fuel d rest
    | '[' :: rest => do
      let (d, rest) ← readHeader d rest
      readLines fuel d rest
    | cs => do
      let (d, rest) ← readSetting d cs
      readLines fuel d rest

/-- The object that a document spells; a byte order mark in front is passed over. -/
def parse? (s : String) : Option Json :=
  let cs :=
    match s.toList with
    | '\ufeff' :: rest => rest
    | cs => cs
  do
    let d ← readLines (cs.length + 1) Draft.start cs
    return .obj (itemsToFields (← d.close))

end LabIndex.Toml
