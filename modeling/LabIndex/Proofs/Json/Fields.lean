import LabIndex.Json.Basic

/-!
# Fields in order

A list of fields whose keys rise strictly is fixed by its lookups, and putting a field keeps it so.
An overlay of such lists looks up the upper one first. Removing a field leaves the others.

* `Fields.ordered_put`, `Fields.ordered_overlay`: the order is kept;
* `Fields.get?_overlay`: in an overlay the upper fields win;
* `Fields.ext`: equal lookups make equal lists;
* `Fields.get?_erase`, `Fields.erase_overlay`: removing a field.
-/

namespace LabIndex.Fields

/-- The keys rise strictly. -/
def Ordered (fs : Fields) : Prop := fs.keys.Pairwise (· < ·)

@[simp] theorem ordered_nil : Ordered [] := List.Pairwise.nil

theorem ordered_cons {k : String} {v : Json} {rest : Fields} :
    Ordered ((k, v) :: rest) ↔ (∀ f ∈ rest, k < f.1) ∧ Ordered rest := by
  simp [Ordered, keys]

theorem ordered_of_sorted {fs : Fields} (h : (Json.obj fs).Sorted) : Ordered fs := h.1

/-! ## 1. Putting -/

theorem mem_put {f : String × Json} {key : String} {value : Json} {fs : Fields}
    (h : f ∈ fs.put key value) : f = (key, value) ∨ f ∈ fs := by
  induction fs with
  | nil => exact Or.inl (List.mem_singleton.mp h)
  | cons g rest ih =>
      obtain ⟨k, v⟩ := g
      simp only [put] at h
      split at h
      · exact (List.mem_cons.mp h).imp id (List.mem_cons_of_mem _)
      · split at h
        · exact List.mem_cons.mp h
        · rcases List.mem_cons.mp h with rfl | h
          · exact Or.inr List.mem_cons_self
          · exact (ih h).imp id (List.mem_cons_of_mem _)

theorem ordered_put {fs : Fields} (h : Ordered fs) (key : String) (value : Json) :
    Ordered (fs.put key value) := by
  induction fs with
  | nil => simp [put, ordered_cons]
  | cons f rest ih =>
      obtain ⟨k, v⟩ := f
      obtain ⟨hk, hr⟩ := ordered_cons.mp h
      simp only [put]
      split
      · rename_i e
        subst e
        exact ordered_cons.mpr ⟨hk, hr⟩
      · split
        · rename_i hlt
          refine ordered_cons.mpr ⟨fun f hf => ?_, h⟩
          rcases List.mem_cons.mp hf with rfl | hf
          · exact hlt
          · exact String.lt_trans hlt (hk f hf)
        · rename_i hne hnlt
          have hlt : k < key := String.not_le.mp fun hle => hne (String.le_antisymm
            (String.not_lt.mp hnlt) hle)
          refine ordered_cons.mpr ⟨fun f hf => ?_, ih hr⟩
          rcases mem_put hf with rfl | hf
          · exact hlt
          · exact hk f hf

/-- A key beyond all others goes to the end. -/
theorem put_of_forall_lt {fs : Fields} {key : String} (h : ∀ f ∈ fs, f.1 < key) (value : Json) :
    fs.put key value = fs ++ [(key, value)] := by
  induction fs with
  | nil => rfl
  | cons f rest ih =>
      obtain ⟨k, v⟩ := f
      have hk : k < key := h (k, v) List.mem_cons_self
      have hne : k ≠ key := fun e => String.lt_irrefl key (e ▸ hk)
      rw [put, if_neg hne, if_neg (String.lt_asymm hk),
        ih fun f hf => h f (List.mem_cons_of_mem _ hf), List.cons_append]

theorem Ordered.put_eq_append {fs more : Fields} {key : String} {value : Json}
    (h : Ordered (fs ++ (key, value) :: more)) : fs.put key value = fs ++ [(key, value)] := by
  refine put_of_forall_lt (fun f hf => ?_) value
  rw [Ordered, keys, List.map_append, List.pairwise_append] at h
  exact h.2.2 f.1 (List.mem_map_of_mem hf) key (List.mem_map_of_mem List.mem_cons_self)

theorem keys_modify (key : String) (f : Json → Json) (fs : Fields) :
    (fs.modify key f).keys = fs.keys := by
  induction fs with
  | nil => rfl
  | cons g rest ih =>
      obtain ⟨k, v⟩ := g
      by_cases hk : k = key
      · rw [modify, if_pos hk]
        rfl
      · rw [modify, if_neg hk]
        exact congrArg (k :: ·) ih

theorem ordered_modify {fs : Fields} (h : Ordered fs) (key : String) (f : Json → Json) :
    Ordered (fs.modify key f) := by
  rw [Ordered, keys_modify]
  exact h

/-! ## 2. Lookups -/

theorem get?_eq_none_of_lt {fs : Fields} {key : String} (h : ∀ f ∈ fs, key < f.1) :
    fs.get? key = none := by
  induction fs with
  | nil => rfl
  | cons f rest ih =>
      have hlt := h f List.mem_cons_self
      have hne : f.1 ≠ key := by
        rintro rfl
        exact String.lt_irrefl _ hlt
      rw [get?_cons, if_neg hne]
      exact ih fun g hg => h g (List.mem_cons_of_mem _ hg)

/-- The first key of fields in order is not looked up by a smaller one. -/
theorem not_lt_of_get?_cons {k l : String} {v w : Json} {rest : Fields}
    (h : Ordered ((l, w) :: rest)) (hv : get? k ((l, w) :: rest) = some v) : ¬ k < l := by
  intro hlt
  have hall : ∀ f ∈ (l, w) :: rest, k < f.1 := by
    intro f hf
    rcases List.mem_cons.mp hf with rfl | hf
    · exact hlt
    · exact String.lt_trans hlt ((ordered_cons.mp h).1 f hf)
  rw [get?_eq_none_of_lt hall] at hv
  cases hv

/-- **In an overlay the upper fields win.** -/
theorem get?_overlay {upper : Fields} (h : Ordered upper) (lower : Fields) (key : String) :
    (overlay lower upper).get? key = (upper.get? key).or (lower.get? key) := by
  induction upper generalizing lower with
  | nil => rfl
  | cons f rest ih =>
      obtain ⟨k, v⟩ := f
      obtain ⟨hk, hr⟩ := ordered_cons.mp h
      have hstep : overlay lower ((k, v) :: rest) = overlay (lower.put k v) rest := rfl
      rw [hstep, ih hr, get?_cons, get?_put]
      by_cases e : k = key
      · subst e
        rw [get?_eq_none_of_lt hk, if_pos rfl, if_pos rfl]
        rfl
      · rw [if_neg (Ne.symm e), if_neg e]

theorem ordered_overlay {lower : Fields} (h : Ordered lower) (upper : Fields) :
    Ordered (overlay lower upper) := by
  induction upper generalizing lower with
  | nil => exact h
  | cons f rest ih => exact ih (ordered_put h f.1 f.2)

/-- **Fields in order are fixed by their lookups.** -/
theorem ext {a b : Fields} (ha : Ordered a) (hb : Ordered b)
    (h : ∀ key, a.get? key = b.get? key) : a = b := by
  induction a generalizing b with
  | nil =>
      cases b with
      | nil => rfl
      | cons g t =>
          have hg := h g.1
          rw [get?_cons, if_pos rfl] at hg
          cases hg
  | cons f s ih =>
      obtain ⟨k, v⟩ := f
      have hk := h k
      rw [get?_cons, if_pos rfl] at hk
      cases b with
      | nil => cases hk
      | cons g t =>
          obtain ⟨l, w⟩ := g
          have hl := h l
          rw [get?_cons l l, if_pos rfl] at hl
          have hkl : k = l := String.le_antisymm
            (String.not_lt.mp (not_lt_of_get?_cons ha hl))
            (String.not_lt.mp (not_lt_of_get?_cons hb hk.symm))
          subst hkl
          have hvw : v = w := by simpa [get?_cons] using hk
          subst hvw
          obtain ⟨hs, hos⟩ := ordered_cons.mp ha
          obtain ⟨ht, hot⟩ := ordered_cons.mp hb
          rw [ih hos hot fun key => ?_]
          by_cases e : k = key
          · subst e
            rw [get?_eq_none_of_lt hs, get?_eq_none_of_lt ht]
          · have hkey := h key
            rwa [get?_cons, get?_cons, if_neg e, if_neg e] at hkey

/-! ## 3. Entries and removal -/

theorem mem_of_get? {fs : Fields} {key : String} {v : Json} (h : get? key fs = some v) :
    (key, v) ∈ fs := by
  induction fs with
  | nil => cases h
  | cons f rest ih =>
      obtain ⟨k, w⟩ := f
      rw [get?_cons] at h
      split at h
      · rename_i hk
        rw [← Option.some.inj h, ← hk]
        exact List.mem_cons_self
      · exact List.mem_cons_of_mem _ (ih h)

/-- Among fields in order every entry is the one that is looked up by its key. -/
theorem get?_of_mem {fs : Fields} (h : Ordered fs) {key : String} {v : Json}
    (hmem : (key, v) ∈ fs) : get? key fs = some v := by
  induction fs with
  | nil => cases hmem
  | cons f rest ih =>
      obtain ⟨k, w⟩ := f
      obtain ⟨hk, hr⟩ := ordered_cons.mp h
      rw [get?_cons]
      rcases List.mem_cons.mp hmem with he | hmem
      · cases he
        exact if_pos rfl
      · have hlt : k < key := hk _ hmem
        have hne : k ≠ key := fun e => String.lt_irrefl key (e ▸ hlt)
        rw [if_neg hne, ih hr hmem]

theorem get?_erase (key other : String) (fs : Fields) :
    (fs.erase key).get? other = if other = key then none else fs.get? other := by
  induction fs with
  | nil => exact (ite_self none).symm
  | cons f rest ih =>
      obtain ⟨k, v⟩ := f
      rw [erase] at ih ⊢
      by_cases hk : k = key
      · subst hk
        rw [List.filter_cons_of_neg (by simp), ih, get?_cons]
        split
        · rfl
        · rename_i hne
          rw [if_neg (Ne.symm hne)]
      · rw [List.filter_cons_of_pos (by simpa using hk), get?_cons, ih, get?_cons]
        split
        · rename_i he
          rw [if_neg (he ▸ hk)]
        · rfl

theorem get?_erase_of_ne {key other : String} (h : other ≠ key) (fs : Fields) :
    (fs.erase key).get? other = fs.get? other := by
  rw [get?_erase, if_neg h]

theorem ordered_erase {fs : Fields} (h : Ordered fs) (key : String) : Ordered (fs.erase key) := by
  rw [Ordered, keys, erase]
  exact List.Pairwise.sublist (List.filter_sublist.map _) h

/-- **Fields are removed from an overlay part by part.** -/
theorem erase_overlay {lower upper : Fields} (hl : Ordered lower) (hu : Ordered upper)
    (key : String) :
    (overlay lower upper).erase key = overlay (lower.erase key) (upper.erase key) := by
  refine ext (ordered_erase (ordered_overlay hl upper) key)
    (ordered_overlay (ordered_erase hl key) _) fun c => ?_
  rw [get?_erase, get?_overlay (ordered_erase hu key), get?_erase, get?_erase, get?_overlay hu]
  split <;> rfl

theorem erase_put_of_ne {key other : String} (h : other ≠ key) {fs : Fields} (ho : Ordered fs)
    (value : Json) : (fs.put other value).erase key = (fs.erase key).put other value := by
  refine ext (ordered_erase (ordered_put ho other value) key)
    (ordered_put (ordered_erase ho key) _ _) fun c => ?_
  rw [get?_erase, get?_put, get?_put, get?_erase]
  by_cases hc : c = other
  · rw [if_pos hc, if_neg (hc ▸ h), if_pos hc]
  · rw [if_neg hc, if_neg hc]

end LabIndex.Fields
