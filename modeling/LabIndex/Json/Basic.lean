import LabIndex.Decimal.Binary

/-!
# JSON values

A number is a whole number between -2⁶³ and 2⁶⁴ - 1 or else a double. An object is a list of
fields in the order of their keys, and a key occurs once; `Fields.put` keeps that order and
`Json.Sorted` says it of a whole value. Lookups read the first field with the key, so their laws
hold of every list of fields, sorted or not.

* `Fields.get?_put_self`, `Fields.get?_put_of_ne`: putting a field changes one lookup;
* `Fields.get?_modify`, `Fields.get?_opened`: so does changing a value in its place, and so does
  making sure that there is one;
* `Json.depth`: how deep a value nests.
-/

namespace LabIndex

open Decimal (Double)

/-! ## 1. Values -/

/-- A JSON number. -/
inductive Number where
  /-- A whole number between -2⁶³ and 2⁶⁴ - 1. -/
  | int (n : Int)
  /-- Any other number, rounded to a double. -/
  | double (x : Double)
deriving DecidableEq, Repr, Inhabited

/-- A JSON value. -/
inductive Json where
  | null
  | bool (b : Bool)
  | num (n : Number)
  | str (s : String)
  | arr (items : List Json)
  | obj (fields : List (String × Json))
deriving Repr, Inhabited

/-- The fields of an object. -/
abbrev Fields := List (String × Json)

/-! ## 2. Fields -/

namespace Fields

/-- The value under a key. -/
def get? (key : String) : Fields → Option Json
  | [] => none
  | (k, v) :: rest => if k = key then some v else get? key rest

/-- Sets a key, in its place in the order. -/
def put (key : String) (value : Json) : Fields → Fields
  | [] => [(key, value)]
  | (k, v) :: rest =>
    if k = key then (key, value) :: rest
    else if key < k then (key, value) :: (k, v) :: rest
    else (k, v) :: put key value rest

/-- Changes the value under a key in its place; where the key is not there nothing changes. -/
def modify (key : String) (f : Json → Json) : Fields → Fields
  | [] => []
  | (k, v) :: rest => if k = key then (k, f v) :: rest else (k, v) :: modify key f rest

/-- Fields in which a key is there: if it was not, with an empty object under it. -/
def opened (key : String) (fs : Fields) : Fields :=
  match fs.get? key with
  | some _ => fs
  | none => fs.put key (.obj [])

/-- Removes a key. -/
def erase (key : String) (fs : Fields) : Fields := fs.filter (·.1 ≠ key)

/-- Sets every field of `upper` over `lower`. -/
def overlay (lower upper : Fields) : Fields := upper.foldl (fun acc f => acc.put f.1 f.2) lower

/-- The keys, in order. -/
def keys (fs : Fields) : List String := fs.map (·.1)

@[simp] theorem get?_nil (key : String) : get? key [] = none := rfl

theorem get?_cons (key k : String) (v : Json) (rest : Fields) :
    get? key ((k, v) :: rest) = if k = key then some v else get? key rest := rfl

@[simp] theorem get?_put_self (key : String) (value : Json) (fs : Fields) :
    (fs.put key value).get? key = some value := by
  induction fs with
  | nil => simp [put, get?]
  | cons f rest ih =>
    obtain ⟨k, v⟩ := f
    simp only [put]
    split
    · simp [get?]
    · split
      · simp [get?]
      · rename_i hk _
        simp [get?, hk, ih]

theorem get?_put_of_ne {key other : String} (h : other ≠ key) (value : Json) (fs : Fields) :
    (fs.put key value).get? other = fs.get? other := by
  induction fs with
  | nil => simp [put, get?, h.symm]
  | cons f rest ih =>
    obtain ⟨k, v⟩ := f
    simp only [put]
    split
    · rename_i hk
      subst hk
      simp [get?, h.symm]
    · split
      · simp [get?, h.symm]
      · simp [get?, ih]

/-- **Putting a field changes the lookup of its key and no other.** -/
theorem get?_put (key other : String) (value : Json) (fs : Fields) :
    (fs.put key value).get? other = if other = key then some value else fs.get? other := by
  split
  · rename_i h
    subst h
    exact get?_put_self ..
  · rename_i h
    exact get?_put_of_ne h ..

/-- **Changing a value in its place changes the lookup of its key and no other.** -/
theorem get?_modify (key other : String) (f : Json → Json) (fs : Fields) :
    (fs.modify key f).get? other = if other = key then (fs.get? key).map f else fs.get? other := by
  induction fs with
  | nil => simp [modify]
  | cons g rest ih =>
    obtain ⟨k, v⟩ := g
    by_cases hk : k = key
    · subst hk
      by_cases ho : other = k
      · simp [modify, get?, ho]
      · simp [modify, get?, ho, Ne.symm ho]
    · by_cases ho : other = key
      · subst ho
        simpa [modify, get?, hk] using ih
      · simp [modify, get?, hk, ho, ih]

/-- A value that is changed into itself is left alone. -/
theorem modify_eq_self {key : String} {f : Json → Json} {fs : Fields}
    (h : ∀ v, fs.get? key = some v → f v = v) : fs.modify key f = fs := by
  induction fs with
  | nil => rfl
  | cons g rest ih =>
    obtain ⟨k, v⟩ := g
    by_cases hk : k = key
    · rw [modify, if_pos hk, h v (by rw [get?_cons, if_pos hk])]
    · rw [modify, if_neg hk, ih fun w hw => h w (by rwa [get?_cons, if_neg hk])]

/-- A key that is opened leads where it led, or else to an empty object. -/
theorem get?_opened (key other : String) (fs : Fields) :
    (fs.opened key).get? other =
      if other = key then some ((fs.get? key).getD (.obj [])) else fs.get? other := by
  cases h : fs.get? key with
  | some v =>
    by_cases ho : other = key
    · simp [opened, h, ho]
    · simp [opened, h, ho]
  | none => simp [opened, h, get?_put]

end Fields

/-! ## 3. Access -/

namespace Json

/-- The value under a key; a value that is no object has none. -/
def get? (key : String) : Json → Option Json
  | .obj fs => Fields.get? key fs
  | _ => none

/-- The text of a string value. -/
def text? : Json → Option String
  | .str s => some s
  | _ => none

/-- Builds an object from fields in any order; of two with one key the later stays. -/
def object (fields : List (String × Json)) : Json := .obj (Fields.overlay [] fields)

/-- A whole number. -/
def ofInt (n : Int) : Json := .num (.int n)

/-- A count. -/
def ofNat (n : Nat) : Json := .num (.int n)

/-- A list of strings. -/
def ofStrings (xs : List String) : Json := .arr (xs.map .str)

/-! ## 4. Well-formed values -/

mutual

/-- Every object in the value has its keys in strictly rising order. -/
def Sorted : Json → Prop
  | .arr items => SortedItems items
  | .obj fields => (fields.map (·.1)).Pairwise (· < ·) ∧ SortedFields fields
  | _ => True

/-- `Sorted` of every element. -/
def SortedItems : List Json → Prop
  | [] => True
  | v :: rest => v.Sorted ∧ SortedItems rest

/-- `Sorted` of every field's value. -/
def SortedFields : List (String × Json) → Prop
  | [] => True
  | (_, v) :: rest => v.Sorted ∧ SortedFields rest

end

/-! ## 5. Nesting -/

mutual

/-- The depth of nesting of a value. -/
def depth : Json → Nat
  | .arr items => itemsDepth items + 1
  | .obj fields => fieldsDepth fields + 1
  | _ => 0

/-- The greatest depth among elements. -/
def itemsDepth : List Json → Nat
  | [] => 0
  | v :: rest => max v.depth (itemsDepth rest)

/-- The greatest depth among fields. -/
def fieldsDepth : List (String × Json) → Nat
  | [] => 0
  | (_, v) :: rest => max v.depth (fieldsDepth rest)

end

end Json

end LabIndex
