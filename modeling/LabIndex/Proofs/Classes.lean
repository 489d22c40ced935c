import Mathlib.Data.List.Perm.Basic

/-!
# Elements sorted out into classes

Where every element fits one class, the classes together have every element once, whatever the order
in which the classes come.

* `flatMap_filter_perm`: elements sorted out by something that fits each of them once;
* `flatMap_filter_any_perm`: the same by keys, of which no two are the same.
-/

namespace LabIndex

variable {α β : Type}

theorem flatMap_ite_singleton (xs : List α) (p : α → Bool) (y : β) :
    (xs.flatMap fun x => if p x then [y] else []) = List.replicate (xs.countP p) y := by
  induction xs with
  | nil => rfl
  | cons x rest ih =>
      rw [List.flatMap_cons, ih, List.countP_cons]
      cases p x with
      | true => exact (List.replicate_succ).symm
      | false => rfl

/-- **Elements that fit exactly one class each are the classes together**, in some order. -/
theorem flatMap_filter_perm {xs : List α} {ys : List β} {fits : α → β → Bool}
    (h : ∀ y ∈ ys, xs.countP (fits · y) = 1) : (xs.flatMap fun x => ys.filter (fits x)).Perm ys := by
  induction ys with
  | nil => simp
  | cons y rest ih =>
      have hsplit : (xs.flatMap fun x => (y :: rest).filter (fits x)) =
          xs.flatMap fun x => (if fits x y then [y] else []) ++ rest.filter (fits x) := by
        refine List.flatMap_congr fun x _ => ?_
        rw [List.filter_cons]
        cases fits x y <;> rfl
      have hone : (xs.flatMap fun x => if fits x y then [y] else []) = [y] := by
        rw [flatMap_ite_singleton, h y List.mem_cons_self]
        rfl
      rw [hsplit]
      refine (List.flatMap_append_perm xs _ _).symm.trans ?_
      rw [hone]
      exact (ih fun z hz => h z (List.mem_cons_of_mem _ hz)).cons y

/-- Classes by distinct keys are the elements that have one of the keys. -/
theorem flatMap_filter_any_perm {keys : List α} [DecidableEq α] (hk : keys.Nodup)
    (key : β → Option α) (ys : List β) :
    (keys.flatMap fun k => ys.filter fun y => key y == some k).Perm
      (ys.filter fun y => keys.any fun k => key y == some k) := by
  have hclass : (keys.flatMap fun k => ys.filter fun y => key y == some k) =
      keys.flatMap fun k =>
        (ys.filter fun y => keys.any fun k => key y == some k).filter fun y => key y == some k := by
    refine List.flatMap_congr fun k hmem => ?_
    rw [List.filter_filter]
    refine List.filter_congr fun y _ => ?_
    cases hy : key y == some k with
    | false => rfl
    | true => exact (List.any_eq_true.mpr ⟨k, hmem, hy⟩).symm
  rw [hclass]
  refine flatMap_filter_perm fun y hy => ?_
  obtain ⟨k, hmem, hyk⟩ := List.any_eq_true.mp (List.mem_filter.mp hy).2
  rw [beq_iff_eq] at hyk
  have hcount : keys.countP (fun k => key y == some k) = keys.count k := by
    refine List.countP_congr fun l _ => ?_
    rw [hyk, beq_iff_eq, beq_iff_eq, Option.some.injEq]
    exact eq_comm
  rw [hcount, hk.count, if_pos hmem]

/-- A filter that passes all or none of what an element gives. -/
theorem filter_flatMap_eq {xs : List α} {g : α → List β} {p : β → Bool} {q : α → Bool}
    (h : ∀ x ∈ xs, (g x).filter p = if q x then g x else []) :
    (xs.flatMap g).filter p = (xs.filter q).flatMap g := by
  induction xs with
  | nil => rfl
  | cons x rest ih =>
      rw [List.flatMap_cons, List.filter_append, h x List.mem_cons_self,
        ih fun y hy => h y (List.mem_cons_of_mem _ hy), List.filter_cons]
      cases q x <;> rfl

end LabIndex
