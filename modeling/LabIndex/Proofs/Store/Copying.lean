import LabIndex.Proofs.Json.Sorted
import LabIndex.Store.Records

/-!
# Copied fields

A value is written by walking down a row, and objects that are missing are made while it is not yet
known whether the walk will come to its end. It nevertheless does all or nothing: a walk that is
blocked has met a value that was there before, and so had nothing to make.

* `Row.Blocked`: something is in the way of a path, with `Row.blocked_cons` for one key of it;
* `Row.setPath_of_blocked`: a walk that is blocked leaves the row as it was;
* `Row.exists_step`: one step of a walk that is free, from which follow by induction on the path
  `Row.getPath?_setPath`, `Row.getPath?_setPath_of_apart` and `Row.exists_obj_of_setPath`;
* `Row.copyField_sets_or_keeps`: **a copied field is set completely or not at all**;
* `Row.sorted_copyField`: it is set in a proper JSON value, so that its lookups are all there is.
-/

namespace LabIndex

namespace Row

/-! ## 1. What is in the way -/

/-- **Something is in the way of a path**: there is no path, or some value that the row has before the
    end of the path is no object. -/
def Blocked (path : List String) (row : Json) : Prop :=
  path = [] ∨ ∃ front, front <+: path ∧ front ≠ path ∧
    ∃ v, getPath? front row = some v ∧ ∀ fs, v ≠ .obj fs

variable {value row : Json} {key : String} {path rest target : List String}

/-- A path is blocked at the row itself, or behind its first key. -/
theorem blocked_cons : Blocked (key :: rest) row ↔
    (∀ fs, row ≠ .obj fs) ∨ rest ≠ [] ∧ ∃ v, row.get? key = some v ∧ Blocked rest v := by
  constructor
  · rintro (h | ⟨front, hfront, hne, v, hv, hobj⟩)
    · cases h
    · cases front with
      | nil =>
          cases hv
          exact .inl hobj
      | cons first more =>
          obtain ⟨rfl, hmore⟩ := List.cons_prefix_cons.mp hfront
          have hne' : more ≠ rest := fun h => hne (by rw [h])
          obtain ⟨w, hw, hv⟩ := Option.bind_eq_some_iff.mp hv
          have hrest : rest ≠ [] := by
            rintro rfl
            exact hne' (List.prefix_nil.mp hmore)
          exact .inr ⟨hrest, w, hw, .inr ⟨more, hmore, hne', v, hv, hobj⟩⟩
  · rintro (h | ⟨hrest, v, hv, h⟩)
    · exact .inr ⟨[], List.nil_prefix, (List.cons_ne_nil _ _).symm, row, rfl, h⟩
    · obtain ⟨front, hfront, hne, w, hw, hobj⟩ := h.resolve_left hrest
      refine .inr ⟨key :: front, List.cons_prefix_cons.mpr ⟨rfl, hfront⟩,
        fun h => hne (List.cons.inj h).2, w, ?_, hobj⟩
      rw [getPath?, hv]
      exact hw

/-- Nothing is in the way of a path in an object that was made for it. -/
theorem not_blocked_empty (h : path ≠ []) : ¬ Blocked path (.obj []) := by
  obtain ⟨key, rest, rfl⟩ := List.exists_cons_of_ne_nil h
  rw [blocked_cons]
  rintro (h | ⟨-, v, hv, -⟩)
  · exact h [] rfl
  · cases hv

/-- **A walk that is blocked changes nothing**: whatever it comes through was there before. -/
theorem setPath_of_blocked (h : Blocked path row) : setPath value path row = row := by
  induction path generalizing row with
  | nil => cases row <;> rfl
  | cons key rest ih =>
      rcases blocked_cons.mp h with hobj | ⟨hrest, v, hv, hblocked⟩
      · cases row with
        | obj fs => exact absurd rfl (hobj fs)
        | _ => cases rest <;> rfl
      · obtain ⟨next, more, rfl⟩ := List.exists_cons_of_ne_nil hrest
        cases row with
        | obj fs =>
            have hv : Fields.get? key fs = some v := hv
            have hthere : Fields.opened key fs = fs := by rw [Fields.opened, hv]
            have hsame : ∀ w, Fields.get? key fs = some w → setPath value (next :: more) w = w := by
              intro w hw
              rw [hv] at hw
              cases hw
              exact ih hblocked
            rw [setPath, hthere, Fields.modify_eq_self hsame]
        | _ => cases hv

/-! ## 2. A walk that is free -/

/-- **One step of a walk with nothing in its way.** The row is an object and stays one; under the first
    key of the path is the value, or what the walk makes of what was there; all other keys are as
    they were. -/
theorem exists_step (value : Json) (h : ¬ Blocked (key :: rest) row) :
    ∃ fs fs', row = .obj fs ∧ setPath value (key :: rest) row = .obj fs' ∧
      (∀ other, other ≠ key → Fields.get? other fs' = Fields.get? other fs) ∧
      (rest = [] ∧ Fields.get? key fs' = some value ∨
        rest ≠ [] ∧ ¬ Blocked rest ((Fields.get? key fs).getD (.obj [])) ∧
          Fields.get? key fs' = some (setPath value rest ((Fields.get? key fs).getD (.obj [])))) := by
  rw [blocked_cons, not_or] at h
  obtain ⟨hobj, hrest⟩ := h
  obtain ⟨fs, rfl⟩ : ∃ fs, row = .obj fs := by simpa using hobj
  cases rest with
  | nil =>
      exact ⟨fs, Fields.put key value fs, rfl, rfl, fun other ho => Fields.get?_put_of_ne ho value fs,
        .inl ⟨rfl, Fields.get?_put_self key value fs⟩⟩
  | cons next more =>
      refine ⟨fs, (Fields.opened key fs).modify key (setPath value (next :: more)), rfl, rfl, ?_, .inr
        ⟨List.cons_ne_nil _ _, ?_, ?_⟩⟩
      · intro other ho
        rw [Fields.get?_modify, if_neg ho, Fields.get?_opened, if_neg ho]
      · cases hv : Fields.get? key fs with
        | none => exact not_blocked_empty (List.cons_ne_nil _ _)
        | some v => exact fun hb => hrest ⟨List.cons_ne_nil _ _, v, hv, hb⟩
      · rw [Fields.get?_modify, if_pos rfl, Fields.get?_opened, if_pos rfl, Option.map_some]

/-- The value is found where it was written. -/
theorem getPath?_setPath (h : ¬ Blocked target row) :
    getPath? target (setPath value target row) = some value := by
  induction target generalizing row with
  | nil => exact absurd (.inl rfl) h
  | cons key rest ih =>
      obtain ⟨fs, fs', -, hset, -, ⟨rfl, hv⟩ | ⟨-, hfree, hv⟩⟩ := exists_step value h
      · rw [hset, getPath?, Json.get?, hv]
        rfl
      · rw [hset, getPath?, Json.get?, hv]
        exact ih hfree

/-- What is looked up in an object that was made for a path was not there before. -/
theorem getPath?_getD (h : path ≠ []) (v : Option Json) :
    getPath? path (v.getD (.obj [])) = v.bind (getPath? path) := by
  cases v with
  | some v => rfl
  | none =>
      obtain ⟨key, rest, rfl⟩ := List.exists_cons_of_ne_nil h
      rfl

/-- **A path that neither leads to the written place nor through it is looked up as before.** -/
theorem getPath?_setPath_of_apart (h : ¬ Blocked target row) (hp : ¬ path <+: target)
    (ht : ¬ target <+: path) : getPath? path (setPath value target row) = getPath? path row := by
  induction target generalizing row path with
  | nil => exact absurd List.nil_prefix ht
  | cons key rest ih =>
      cases path with
      | nil => exact absurd List.nil_prefix hp
      | cons first more =>
          obtain ⟨fs, fs', rfl, hset, hothers, hkey⟩ := exists_step value h
          rw [hset]
          by_cases hf : first = key
          · subst hf
            have hp' : ¬ more <+: rest := fun hm => hp (List.cons_prefix_cons.mpr ⟨rfl, hm⟩)
            have ht' : ¬ rest <+: more := fun hm => ht (List.cons_prefix_cons.mpr ⟨rfl, hm⟩)
            rcases hkey with ⟨rfl, -⟩ | ⟨-, hfree, hv⟩
            · exact absurd List.nil_prefix ht'
            · have hmore : more ≠ [] := by
                rintro rfl
                exact hp' List.nil_prefix
              rw [getPath?, getPath?, Json.get?, Json.get?, hv, Option.bind_some,
                ih hfree hp' ht', getPath?_getD hmore]
          · rw [getPath?, getPath?, Json.get?, Json.get?, hothers first hf]

/-- **What is on the way to the written place is an object, and it has its other keys from before**:
    all those that it had, and none if it was made. -/
theorem exists_obj_of_setPath {front : List String} (h : ¬ Blocked (front ++ key :: rest) row) :
    ∃ fs, getPath? front (setPath value (front ++ key :: rest) row) = some (.obj fs) ∧
      ∀ other, other ≠ key → Fields.get? other fs = (getPath? front row).bind (·.get? other) := by
  induction front generalizing row with
  | nil =>
      obtain ⟨fs, fs', rfl, hset, hothers, -⟩ := exists_step value h
      rw [List.nil_append, hset]
      exact ⟨fs', rfl, hothers⟩
  | cons first more ih =>
      rw [List.cons_append] at h ⊢
      obtain ⟨fs, fs', rfl, hset, -, ⟨hnil, -⟩ | ⟨-, hfree, hv⟩⟩ := exists_step value h
      · cases more <;> cases hnil
      · rw [hset, getPath?, Json.get?, hv]
        obtain ⟨found, hfound, hkept⟩ := ih hfree
        refine ⟨found, hfound, fun other ho => ?_⟩
        rw [hkept other ho, getPath?, Json.get?]
        cases Fields.get? first fs with
        | some v => rfl
        | none => cases more <;> rfl

/-! ## 3. Copying -/

/-- **A copied field is set completely or not at all.** The row stays exactly as it was where there is
    nothing to copy, where there is no path to copy it to, and where a value before the end of that
    path is no object. Otherwise the value is found there; every path that neither leads there nor
    leads through there is looked up as before; and what is on the way is an object that has its other
    keys from before. -/
theorem copyField_sets_or_keeps (origin target : List String) (row : Json) :
    (getPath? origin row = none ∨ Blocked target row → copyField origin target row = row) ∧
    ∀ value, getPath? origin row = some value → ¬ Blocked target row →
      getPath? target (copyField origin target row) = some value ∧
      (∀ path, ¬ path <+: target → ¬ target <+: path →
        getPath? path (copyField origin target row) = getPath? path row) ∧
      ∀ front key rest, target = front ++ key :: rest →
        ∃ fs, getPath? front (copyField origin target row) = some (.obj fs) ∧
          ∀ other, other ≠ key → Fields.get? other fs = (getPath? front row).bind (·.get? other) := by
  constructor
  · intro h
    rw [copyField]
    split
    · rename_i value hvalue
      exact setPath_of_blocked (h.resolve_left (by simp [hvalue]))
    · rfl
  · intro value hvalue hfree
    have hcopy : copyField origin target row = setPath value target row := by rw [copyField, hvalue]
    rw [hcopy]
    refine ⟨getPath?_setPath hfree, fun path hp ht => getPath?_setPath_of_apart hfree hp ht, ?_⟩
    rintro front key rest rfl
    exact exists_obj_of_setPath hfree

/-- A row with an object in it. -/
def nestedRow : Json := .obj [("a", .obj [("b", .ofNat 1)]), ("c", .ofNat 2)]

/-- A number is copied to a place in an object that has to be made inside another; and nothing is
    copied below a number. -/
theorem copyField_sets_or_keeps_nested :
    let made := copyField ["c"] ["a", "d", "e"] nestedRow
    getPath? ["c"] nestedRow = some (.ofNat 2) ∧ ¬ Blocked ["a", "d", "e"] nestedRow ∧
      (getPath? ["a", "d", "e"] made = some (.ofNat 2) ∧
        (∀ path, ¬ path <+: ["a", "d", "e"] → ¬ ["a", "d", "e"] <+: path →
          getPath? path made = getPath? path nestedRow) ∧
        ∀ front key rest, ["a", "d", "e"] = front ++ key :: rest →
          ∃ fs, getPath? front made = some (.obj fs) ∧
            ∀ other, other ≠ key →
              Fields.get? other fs = (getPath? front nestedRow).bind (·.get? other)) ∧
      Blocked ["c", "x"] nestedRow ∧ copyField ["a"] ["c", "x"] nestedRow = nestedRow := by
  intro made
  have hfree : ¬ Blocked ["a", "d", "e"] nestedRow := by
    simp [blocked_cons, nestedRow, Json.get?, Fields.get?]
  have hblocked : Blocked ["c", "x"] nestedRow :=
    .inr ⟨["c"], by decide, by decide, .ofNat 2, rfl, fun fs h => by cases h⟩
  exact ⟨rfl, hfree, (copyField_sets_or_keeps _ _ _).2 _ rfl hfree, hblocked,
    (copyField_sets_or_keeps _ _ _).1 (.inr hblocked)⟩

/-- An object can be copied into itself: it is read before anything is written. -/
example : copyField ["a"] ["a", "x"] nestedRow =
    .obj [("a", .obj [("b", .ofNat 1), ("x", .obj [("b", .ofNat 1)])]), ("c", .ofNat 2)] := rfl

/-! ## 4. Rows in order -/

theorem sorted_of_getPath? (h : row.Sorted) (hv : getPath? path row = some value) :
    value.Sorted := by
  induction path generalizing row with
  | nil =>
      cases hv
      exact h
  | cons key rest ih =>
      obtain ⟨v, hget, hrest⟩ := Option.bind_eq_some_iff.mp hv
      cases row with
      | obj fs => exact ih (Json.sorted_of_get? h.2 hget) hrest
      | _ => cases hget

/-- A proper value written into a proper row leaves a proper row. -/
theorem sorted_setPath (hv : value.Sorted) (h : row.Sorted) : (setPath value path row).Sorted := by
  induction path generalizing row with
  | nil => cases row <;> exact h
  | cons key rest ih =>
      cases row with
      | obj fs =>
          cases rest with
          | nil => exact ⟨Fields.ordered_put h.1 key value, Json.sortedFields_put hv h.2⟩
          | cons next more =>
              have hopened : (Json.obj (Fields.opened key fs)).Sorted := by
                rw [Fields.opened]
                split
                · exact h
                · exact ⟨Fields.ordered_put h.1 key _,
                    Json.sortedFields_put ⟨List.Pairwise.nil, trivial⟩ h.2⟩
              exact ⟨Fields.ordered_modify hopened.1 key _,
                Json.sortedFields_modify hopened.2 key fun v hs => ih hs⟩
      | _ => cases rest <;> exact h

/-- **Copying keeps every object's keys in order, each once.** -/
theorem sorted_copyField (origin target : List String) (h : row.Sorted) :
    (copyField origin target row).Sorted := by
  rw [copyField]
  split
  · rename_i value hvalue
    exact sorted_setPath (sorted_of_getPath? h hvalue) h
  · exact h

end Row

end LabIndex
