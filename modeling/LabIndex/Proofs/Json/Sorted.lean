import LabIndex.Json.Reader
import LabIndex.Proofs.Json.Fields

/-!
# Values with their keys in order

Whatever is read from a text has the keys of all its objects in order, so nothing that a program
holds is without it. Whether a given value has is decidable.

* `Json.sorted_of_parse?`: a value that was read is sorted;
* `Json.sortedFields_put`: putting a sorted value keeps fields sorted.
-/

namespace LabIndex.Json

/-! ## 1. Deciding -/

mutual

def decideSorted : ∀ v : Json, Decidable v.Sorted
  | .null => .isTrue trivial
  | .bool _ => .isTrue trivial
  | .num _ => .isTrue trivial
  | .str _ => .isTrue trivial
  | .arr items => decideSortedItems items
  | .obj fields => @instDecidableAnd _ _ inferInstance (decideSortedFields fields)

def decideSortedItems : ∀ items : List Json, Decidable (SortedItems items)
  | [] => .isTrue trivial
  | v :: rest => @instDecidableAnd _ _ (decideSorted v) (decideSortedItems rest)

def decideSortedFields : ∀ fields : List (String × Json), Decidable (SortedFields fields)
  | [] => .isTrue trivial
  | (_, v) :: rest => @instDecidableAnd _ _ (decideSorted v) (decideSortedFields rest)

end

instance : DecidablePred Sorted := decideSorted

theorem sorted_of_mem_items {items : List Json} (h : SortedItems items) :
    ∀ v ∈ items, v.Sorted := by
  induction items with
  | nil => exact fun v hv => absurd hv List.not_mem_nil
  | cons w rest ih =>
      intro v hv
      rcases List.mem_cons.mp hv with rfl | hv
      · exact h.1
      · exact ih h.2 v hv

/-! ## 2. Reading -/

theorem sortedFields_put {fs : Fields} {key : String} {v : Json} (hv : v.Sorted)
    (h : SortedFields fs) : SortedFields (fs.put key v) := by
  induction fs with
  | nil => exact ⟨hv, trivial⟩
  | cons f rest ih =>
      obtain ⟨k, w⟩ := f
      simp only [Fields.put]
      split
      · exact ⟨hv, h.2⟩
      · split
        · exact ⟨hv, h⟩
        · exact ⟨h.1, ih h.2⟩

theorem sortedFields_modify {fs : Fields} {f : Json → Json} (h : SortedFields fs) (key : String)
    (hf : ∀ v, v.Sorted → (f v).Sorted) : SortedFields (fs.modify key f) := by
  induction fs with
  | nil => exact h
  | cons g rest ih =>
      obtain ⟨k, v⟩ := g
      by_cases hk : k = key
      · rw [Fields.modify, if_pos hk]
        exact ⟨hf v h.1, h.2⟩
      · rw [Fields.modify, if_neg hk]
        exact ⟨h.1, ih h.2⟩

theorem sorted_of_get? {fs : Fields} {key : String} {v : Json} (h : SortedFields fs)
    (hv : fs.get? key = some v) : v.Sorted := by
  induction fs with
  | nil => cases hv
  | cons g rest ih =>
      obtain ⟨k, w⟩ := g
      rw [Fields.get?_cons] at hv
      split at hv
      · cases hv
        exact h.1
      · exact ih h.2 hv

/-- What is read in so many steps is sorted: values, elements, and fields put to sorted ones. -/
structure ReadsSorted (fuel : Nat) : Prop where
  value : ∀ {depth cs v rest}, readValue fuel depth cs = some (v, rest) → v.Sorted
  items : ∀ {depth cs items rest}, readItems fuel depth cs = some (items, rest) → SortedItems items
  fields : ∀ {depth acc cs fields rest}, Fields.Ordered acc → SortedFields acc →
    readFields fuel depth acc cs = some (fields, rest) →
      Fields.Ordered fields ∧ SortedFields fields

namespace ReadsSorted

variable {fuel depth : Nat} {cs rest : List Char}

theorem readValue_succ (ih : ReadsSorted fuel) {v : Json}
    (h : readValue (fuel + 1) depth cs = some (v, rest)) : v.Sorted := by
  rw [readValue.eq_def] at h
  simp only at h
  split at h
  · cases h; trivial
  · cases h; trivial
  · cases h; trivial
  · obtain ⟨p, -, hp⟩ := Option.map_eq_some_iff.mp h
    cases hp; trivial
  · -- a list
    split at h
    · cases h
    · split at h
      · cases h; trivial
      · obtain ⟨⟨items, r⟩, hi, hp⟩ := Option.map_eq_some_iff.mp h
        cases hp
        exact ih.items hi
  · -- an object
    split at h
    · cases h
    · split at h
      · cases h; exact ⟨List.Pairwise.nil, trivial⟩
      · obtain ⟨⟨fields, r⟩, hf, hp⟩ := Option.map_eq_some_iff.mp h
        cases hp
        exact ih.fields Fields.ordered_nil trivial hf
  · obtain ⟨p, -, hp⟩ := Option.map_eq_some_iff.mp h
    cases hp; trivial

theorem readItems_succ (ih : ReadsSorted fuel) {items : List Json}
    (h : readItems (fuel + 1) depth cs = some (items, rest)) : SortedItems items := by
  rw [readItems] at h
  split at h
  · cases h
  · rename_i v r hv
    split at h
    · obtain ⟨⟨more, r'⟩, hm, hp⟩ := Option.map_eq_some_iff.mp h
      cases hp
      exact ⟨ih.value hv, ih.items hm⟩
    · cases h
      exact ⟨ih.value hv, trivial⟩
    · cases h

/-- A field that was read goes to those read before, which stay in order. -/
theorem readFields_succ (ih : ReadsSorted fuel) {acc fields : Fields} (ho : Fields.Ordered acc)
    (hs : SortedFields acc) (h : readFields (fuel + 1) depth acc cs = some (fields, rest)) :
    Fields.Ordered fields ∧ SortedFields fields := by
  rw [readFields.eq_def] at h
  simp only at h
  split at h
  · split at h
    · cases h
    · rename_i key _ _
      split at h
      · split at h
        · cases h
        · rename_i v r hv
          have ho' := Fields.ordered_put ho (String.ofList key) v
          have hs' : SortedFields (acc.put (String.ofList key) v) :=
            sortedFields_put (ih.value hv) hs
          split at h
          · exact ih.fields ho' hs' h
          · cases h
            exact ⟨ho', hs'⟩
          · cases h
      · cases h
  · cases h

end ReadsSorted

theorem readsSorted (fuel : Nat) : ReadsSorted fuel := by
  induction fuel with
  | zero => exact ⟨nofun, nofun, nofun⟩
  | succ fuel ih => exact ⟨ih.readValue_succ, ih.readItems_succ, ih.readFields_succ⟩

/-- **A value that was read is sorted.** -/
theorem sorted_of_parse? {s : String} {v : Json} (h : parse? s = some v) : v.Sorted := by
  simp only [parse?] at h
  split at h
  · rename_i w rest hw
    split at h
    · cases h
      exact (readsSorted _).value hw
    · cases h
  · cases h

end LabIndex.Json
