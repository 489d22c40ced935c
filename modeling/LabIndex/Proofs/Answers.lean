import Mathlib.Data.List.Basic
import Mathlib.Data.List.Forall2

/-!
# Answers

An answer is a value or a failure. Answers in turn give a value when each of them does, and answers
to every element of a list give a list when each element has one.

* `mapM_eq_ok_iff`: the answers to a list;
* `Leads`: where one answer is a value so is another, and the two are related.
-/

namespace LabIndex

variable {α β ε : Type}

theorem bind_eq_ok_iff {x : Except ε α} {f : α → Except ε β} {b : β} :
    (x >>= f) = .ok b ↔ ∃ a, x = .ok a ∧ f a = .ok b := by
  cases x <;> simp [bind, Except.bind]

theorem bind_eq_error_iff {x : Except ε α} {f : α → Except ε β} {e : ε} :
    (x >>= f) = .error e ↔ x = .error e ∨ ∃ a, x = .ok a ∧ f a = .error e := by
  cases x <;> simp [bind, Except.bind]

theorem exists_of_map_eq_ok {x : Except ε α} {f : α → β} {b : β} (h : x.map f = .ok b) :
    ∃ a, x = .ok a ∧ f a = b := by
  cases x with
  | error e => cases h
  | ok a => exact ⟨a, rfl, Except.ok.inj h⟩

theorem toOption_eq_some_iff {x : Except ε α} {a : α} : x.toOption = some a ↔ x = .ok a := by
  cases x <;> simp [Except.toOption]

section Lists

variable {f : α → Except ε β} {g : α → β} {xs : List α}

/-- All are answered exactly when each is. -/
theorem mapM_eq_ok_iff {ys : List β} : xs.mapM f = .ok ys ↔ xs.map f = ys.map .ok := by
  induction xs generalizing ys with
  | nil =>
      rw [List.mapM_nil, List.map_nil, List.nil_eq, List.map_eq_nil_iff]
      constructor
      · exact fun h => (Except.ok.inj h).symm
      · rintro rfl
        rfl
  | cons x rest ih =>
      simp only [List.mapM_cons, List.map_cons, bind_eq_ok_iff, ih]
      constructor
      · rintro ⟨y, hy, zs, hzs, e⟩
        cases e
        rw [hy, hzs, List.map_cons]
      · intro h
        cases ys with
        | nil => cases h
        | cons y zs =>
            obtain ⟨hy, hzs⟩ := List.cons.inj h
            exact ⟨y, hy, zs, hzs, rfl⟩

theorem mapM_of_forall (h : ∀ x ∈ xs, f x = .ok (g x)) : xs.mapM f = .ok (xs.map g) := by
  rw [mapM_eq_ok_iff, List.map_map]
  exact List.map_congr_left h

/-- The values are those of the elements that have one. -/
theorem eq_filterMap_of_mapM {ys : List β} (h : xs.mapM f = .ok ys) :
    ys = xs.filterMap fun x => (f x).toOption := by
  have hm := congrArg (List.filterMap Except.toOption) (mapM_eq_ok_iff.mp h)
  rw [List.filterMap_map, List.filterMap_map] at hm
  exact (hm.trans (List.filterMap_some)).symm

theorem mem_iff_of_mapM {ys : List β} (h : xs.mapM f = .ok ys) {y : β} :
    y ∈ ys ↔ ∃ x ∈ xs, f x = .ok y := by
  rw [← List.mem_map, mapM_eq_ok_iff.mp h, List.mem_map]
  constructor
  · exact fun hy => ⟨y, hy, rfl⟩
  · rintro ⟨z, hz, e⟩
    exact Except.ok.inj e ▸ hz

theorem exists_mapM_eq_ok_iff : (∃ ys, xs.mapM f = .ok ys) ↔ ∀ x ∈ xs, ∃ y, f x = .ok y := by
  constructor
  · rintro ⟨ys, h⟩ x hx
    have hmem : f x ∈ ys.map Except.ok := mapM_eq_ok_iff.mp h ▸ List.mem_map_of_mem hx
    obtain ⟨y, -, hy⟩ := List.mem_map.mp hmem
    exact ⟨y, hy.symm⟩
  · intro h
    induction xs with
    | nil => exact ⟨[], rfl⟩
    | cons x rest ih =>
        obtain ⟨y, hy⟩ := h x List.mem_cons_self
        obtain ⟨ys, hys⟩ := ih fun z hz => h z (List.mem_cons_of_mem _ hz)
        exact ⟨y :: ys, by rw [List.mapM_cons, hy, hys]; rfl⟩

/-- Where the answers fail, one of them does so. -/
theorem exists_mem_of_mapM_eq_error {e : ε} (h : xs.mapM f = .error e) : ∃ x ∈ xs, f x = .error e := by
  induction xs with
  | nil => cases h
  | cons x rest ih =>
      rw [List.mapM_cons] at h
      rcases bind_eq_error_iff.mp h with hx | ⟨y, -, hrest⟩
      · exact ⟨x, List.mem_cons_self, hx⟩
      · rcases bind_eq_error_iff.mp hrest with hrest | ⟨ys, -, hys⟩
        · obtain ⟨z, hz, hfail⟩ := ih hrest
          exact ⟨z, List.mem_cons_of_mem x hz, hfail⟩
        · cases hys

end Lists

/-- **Where one answer is a value the other is a related one.** Nothing is said of failures. -/
def Leads (R : α → β → Prop) (x : Except ε α) (y : Except ε β) : Prop :=
  ∀ a, x = .ok a → ∃ b, y = .ok b ∧ R a b

section Leading

variable {γ δ : Type} {R : α → β → Prop} {S : γ → δ → Prop} {x : Except ε α} {y : Except ε β}

theorem leads_ok {a : α} {b : β} (h : R a b) :
    Leads R (.ok a : Except ε α) (.ok b : Except ε β) := fun _ ha => ⟨b, rfl, Except.ok.inj ha ▸ h⟩

theorem leads_of_eq {x x' : Except ε α} (h : x' = x) : Leads Eq x x' :=
  fun a ha => ⟨a, h.trans ha, rfl⟩

theorem Leads.bind {f : α → Except ε γ} {g : β → Except ε δ} (h : Leads R x y)
    (H : ∀ a b, R a b → Leads S (f a) (g b)) : Leads S (x >>= f) (y >>= g) := by
  intro c hc
  obtain ⟨a, ha, hc⟩ := bind_eq_ok_iff.mp hc
  obtain ⟨b, rfl, hab⟩ := h a ha
  obtain ⟨d, hd, hcd⟩ := H a b hab c hc
  exact ⟨d, bind_eq_ok_iff.mpr ⟨b, rfl, hd⟩, hcd⟩

/-- The same steps after answers that lead to the same value. -/
theorem Leads.bind_eq {x x' : Except ε α} {f : α → Except ε γ} {g : α → Except ε δ}
    (h : Leads Eq x x') (H : ∀ a, Leads S (f a) (g a)) : Leads S (x >>= f) (x' >>= g) :=
  h.bind fun a _ hab => hab ▸ H a

theorem Leads.map {f : α → γ} {g : β → δ} (h : Leads R x y) (H : ∀ a b, R a b → S (f a) (g b)) :
    Leads S (x.map f) (y.map g) := by
  intro c hc
  obtain ⟨a, ha, rfl⟩ := exists_of_map_eq_ok hc
  obtain ⟨b, rfl, hab⟩ := h a ha
  exact ⟨g b, rfl, H a b hab⟩

/-- Answers to related elements. -/
theorem leads_mapM {T : α → β → Prop} {f : α → Except ε γ} {g : β → Except ε δ}
    {xs : List α} {ys : List β} (h : List.Forall₂ T xs ys)
    (H : ∀ a b, T a b → Leads S (f a) (g b)) : Leads (List.Forall₂ S) (xs.mapM f) (ys.mapM g) := by
  induction h with
  | nil => exact leads_ok List.Forall₂.nil
  | @cons a b rest rest' hab _ ih =>
      intro cs hcs
      simp only [List.mapM_cons, bind_eq_ok_iff] at hcs
      obtain ⟨c, hc, more, hmore, hcs⟩ := hcs
      obtain ⟨d, hd, hcd⟩ := H a b hab c hc
      obtain ⟨more', hmore', hrest⟩ := ih more hmore
      rw [← Except.ok.inj hcs]
      exact ⟨d :: more', by rw [List.mapM_cons, hd, hmore']; rfl, .cons hcd hrest⟩

end Leading

end LabIndex
