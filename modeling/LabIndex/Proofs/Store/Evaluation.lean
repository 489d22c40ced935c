import LabIndex.Proofs.Answers
import LabIndex.Proofs.Json.Sorted
import LabIndex.Store.Dump

/-!
# What queries yield

A query that reads existing tables yields rows, and a zipped join is the nested loop: every row of
its source with every row of the other table that has its key, the latter's columns over the
former's. A query depends on the tables that it names and on no other.

* `Store.eval_getAllBy`, `Store.eval_zip_eqJoin`, `Store.eval_zip_copyField_eqJoin`: lookups and
  joins as lists of rows;
* `Row.get?_overlaid`: the columns of a joined row;
* `Row.AgreeBut`: rows that differ in one column at most, and what a row laid over them hides;
* `Store.eval_congr`: stores with the same tables answer alike;
* `Store.isSome_of_eval`: a query that yields rows has found its tables.
-/

namespace LabIndex

/-! ## 1. Rows -/

/-- A row with a key is an object. -/
theorem Json.exists_obj_of_key {row : Json} {column key : String} (h : row.key column = some key) :
    ∃ fs, row = .obj fs ∧ ∃ v, Fields.get? column fs = some v := by
  cases row with
  | obj fs =>
      cases hv : Fields.get? column fs with
      | none => simp [Json.key, Json.get?, hv, Json.keyForm] at h
      | some v => exact ⟨fs, rfl, v, hv⟩
  | _ => simp [Json.key, Json.get?, Json.keyForm] at h

theorem Json.key_eq_of_text {row : Json} {column s : String} (h : row.get? column = some (.str s)) :
    row.key column = some s := by
  rw [Json.key, h]
  rfl

namespace Row

/-- A row with the columns of another over its own. -/
def overlaid (left right : Json) : Json :=
  match left, right with
  | .obj l, .obj r => .obj (Fields.overlay l r)
  | l, _ => l

@[simp] theorem overlaid_obj (l r : Fields) : overlaid (.obj l) (.obj r) = .obj (Fields.overlay l r) := rfl

theorem zip?_pair (l r : Fields) : zip? (pair (.obj l) (.obj r)) = some (overlaid (.obj l) (.obj r)) :=
  rfl

/-- Copying a column of the right row of a pair is copying it before pairing. -/
theorem copyField_right (l : Json) (r : Fields) (origin target : String) :
    copyField ["right", origin] ["right", target] (pair l (.obj r)) =
      pair l (copyField [origin] [target] (.obj r)) := by
  cases h : Fields.get? origin r with
  | none => simp [copyField, getPath?, pair, Json.get?, Fields.get?, h]
  | some v =>
      simp only [copyField, getPath?, setPath, pair, Json.get?, Fields.get?, Fields.opened,
        Fields.modify, h, Option.bind_some, String.reduceEq, ↓reduceIte]

theorem copyField_obj (r : Fields) (origin target : String) :
    copyField [origin] [target] (.obj r) =
      .obj (match Fields.get? origin r with
        | some v => Fields.put target v r
        | none => r) := by
  cases h : Fields.get? origin r <;> simp [copyField, getPath?, setPath, Json.get?, h]

/-- **In a joined row the right columns win.** -/
theorem get?_overlaid {l r : Fields} (h : Fields.Ordered r) (column : String) :
    (overlaid (.obj l) (.obj r)).get? column = (Fields.get? column r).or (Fields.get? column l) :=
  Fields.get?_overlay h l column

theorem key_overlaid_of_right {l r : Fields} (h : Fields.Ordered r) {column key : String}
    (hk : (Json.obj r).key column = some key) :
    (overlaid (.obj l) (.obj r)).key column = some key := by
  obtain ⟨fs, hfs, v, hv⟩ := Json.exists_obj_of_key hk
  cases hfs
  rw [Json.key, get?_overlaid h, hv, Option.some_or, ← hv]
  exact hk

theorem key_overlaid_of_none {l r : Fields} (h : Fields.Ordered r) {column : String}
    (hk : Fields.get? column r = none) :
    (overlaid (.obj l) (.obj r)).key column = (Json.obj l).key column := by
  rw [Json.key, get?_overlaid h, hk, Option.none_or]
  rfl

/-- A list that is attached leaves the other columns alone. -/
theorem get?_attach {name column : String} (hne : column ≠ name) (found : List Json) (row : Json) :
    (attach name found row).get? column = row.get? column := by
  cases row with
  | obj fs => exact Fields.get?_put_of_ne hne _ fs
  | _ => rfl

theorem key_attach {name column : String} (hne : column ≠ name) (found : List Json) (row : Json) :
    (attach name found row).key column = row.key column := by
  rw [Json.key, Json.key, get?_attach hne]

/-- A change to rows leaves their columns in order, and all columns but one alone. -/
def ChangesOnly (column : String) (f : Json → Json) : Prop :=
  ∀ r : Fields, Fields.Ordered r → ∃ r', f (.obj r) = .obj r' ∧ Fields.Ordered r' ∧
    ∀ c, c ≠ column → Fields.get? c r' = Fields.get? c r

theorem changesOnly_id (column : String) : ChangesOnly column id :=
  fun r hr => ⟨r, rfl, hr, fun _ _ => rfl⟩

theorem changesOnly_copyField (origin target : String) :
    ChangesOnly target (copyField [origin] [target]) := by
  intro r hr
  refine ⟨_, copyField_obj r origin target, ?_⟩
  cases Fields.get? origin r with
  | none => exact ⟨hr, fun _ _ => rfl⟩
  | some v => exact ⟨Fields.ordered_put hr target v, fun c hc => Fields.get?_put_of_ne hc v r⟩

/-- Two rows have their columns in order and the same ones, but for one. -/
structure AgreeBut (column : String) (a b : Fields) : Prop where
  left : Fields.Ordered a
  right : Fields.Ordered b
  get? : ∀ c, c ≠ column → Fields.get? c a = Fields.get? c b

namespace AgreeBut

variable {column : String} {a b r : Fields}

theorem overlay (h : AgreeBut column a b) (hr : Fields.Ordered r) :
    AgreeBut column (Fields.overlay a r) (Fields.overlay b r) where
  left := Fields.ordered_overlay h.left r
  right := Fields.ordered_overlay h.right r
  get? c hc := by rw [Fields.get?_overlay hr, Fields.get?_overlay hr, h.get? c hc]

theorem key_eq (h : AgreeBut column a b) {c : String} (hc : c ≠ column) :
    (Json.obj a).key c = (Json.obj b).key c := by
  simp only [Json.key, Json.get?, h.get? c hc]

/-- **A row that has the column hides the difference.** -/
theorem overlay_eq (h : AgreeBut column a b) (hr : Fields.Ordered r)
    (hc : (Fields.get? column r).isSome) : Fields.overlay a r = Fields.overlay b r := by
  refine Fields.ext (Fields.ordered_overlay h.left r) (Fields.ordered_overlay h.right r) fun c => ?_
  rw [Fields.get?_overlay hr, Fields.get?_overlay hr]
  by_cases e : c = column
  · subst e
    obtain ⟨v, hv⟩ := Option.isSome_iff_exists.mp hc
    rw [hv, Option.some_or, Option.some_or]
  · rw [h.get? c e]

end AgreeBut

/-- A function of rows does not see a column. -/
def Blind {α : Type} (column : String) (g : Json → α) : Prop :=
  ∀ a b : Fields, AgreeBut column a b → g (.obj a) = g (.obj b)

end Row

/-! ## 2. Lookups and joins -/

namespace Store

/-- The rows of a table; none where it is missing. -/
def table (s : Store) (name : String) : List Json := (s.rows? name).getD []

theorem rows_eq {s : Store} {name : String} (h : (s.rows? name).isSome) :
    s.rows name = .ok (s.table name) := by
  obtain ⟨found, hr⟩ := Option.isSome_iff_exists.mp h
  simp [rows, table, hr]

theorem isSome_of_rows {s : Store} {name : String} {found : List Json}
    (h : s.rows name = .ok found) : (s.rows? name).isSome := by
  rw [rows] at h
  split at h
  · rename_i hr
    rw [hr]
    rfl
  · cases h

/-- Rows that are added to a table that is there. -/
theorem rows?_insert_of_any {s : Store} {name : String}
    (h : s.tables.any (·.1 == name) = true) (rows : List Json) (t : String) :
    (s.insert name rows).rows? t =
      if t = name then some (s.table name ++ rows) else s.rows? t := by
  -- a table is looked for by its name, which adding rows leaves alone
  have hname : ∀ u : String × List Json,
      ((if u.1 == name then (u.1, u.2 ++ rows) else u).1 == t) = (u.1 == t) := by
    intro u
    split <;> rfl
  rw [insert, if_pos h, rows?]
  simp only [List.find?_map, Function.comp_def, hname]
  cases hf : s.tables.find? (·.1 == t) with
  | none =>
      have hne : t ≠ name := by
        rintro rfl
        obtain ⟨u, hu, hun⟩ := List.any_eq_true.mp h
        exact List.find?_eq_none.mp hf u hu hun
      rw [if_neg hne, rows?, hf]
      rfl
  | some u =>
      obtain rfl : u.1 = t := by simpa using List.find?_some hf
      by_cases hu : u.1 = name
      · subst hu
        simp only [table, rows?, hf, Option.map_some, beq_self_eq_true, if_true, Option.getD_some]
      · have hne : (u.1 == name) = false := beq_eq_false_iff_ne.mpr hu
        simp only [rows?, hf, Option.map_some, hne, Bool.false_eq_true, if_false, if_neg hu]

/-- Rows that are added as a new table. -/
theorem rows?_insert_of_not_any {s : Store} {name : String}
    (h : ¬ s.tables.any (·.1 == name) = true) (rows : List Json) (t : String) :
    (s.insert name rows).rows? t =
      if t = name then some (s.table name ++ rows) else s.rows? t := by
  have hnone : s.tables.find? (·.1 == name) = none := by
    rw [List.find?_eq_none]
    exact fun u hu hun => h (List.any_eq_true.mpr ⟨u, hu, hun⟩)
  rw [insert, if_neg h, rows?, List.find?_append]
  by_cases ht : t = name
  · subst ht
    simp [table, rows?, hnone]
  · have hne : (name == t) = false := beq_eq_false_iff_ne.mpr (Ne.symm ht)
    simp [rows?, hne, ht]

/-- **Rows go to the end of their own table**, and no other changes. -/
theorem rows?_insert (s : Store) (name : String) (rows : List Json) (t : String) :
    (s.insert name rows).rows? t =
      if t = name then some (s.table name ++ rows) else s.rows? t := by
  by_cases h : s.tables.any (·.1 == name) = true
  · exact rows?_insert_of_any h rows t
  · exact rows?_insert_of_not_any h rows t

/-- The rows of one table do not matter to the others. -/
theorem rows?_ofTables_congr {name t : String} (ht : t ≠ name) (rows rows' : List Json)
    (before after : List (String × List Json)) :
    (ofTables (before ++ (name, rows) :: after)).rows? t =
      (ofTables (before ++ (name, rows') :: after)).rows? t := by
  have hstep : ∀ u ∈ after, ∀ s s' : Store, s.rows? t = s'.rows? t →
      (s.insert u.1 u.2).rows? t = (s'.insert u.1 u.2).rows? t := by
    intro u _ s s' h
    rw [rows?_insert, rows?_insert, h]
    split
    · rename_i hu
      rw [table, table, ← hu, h]
    · rfl
  rw [ofTables, ofTables, List.foldl_append, List.foldl_append, List.foldl_cons, List.foldl_cons]
  refine List.foldl_rel (r := fun s s' : Store => s.rows? t = s'.rows? t) ?_ hstep
  rw [rows?_insert, rows?_insert, if_neg ht, if_neg ht]

/-- A store with other rows in a table, if it has the table. -/
def withRows (s : Store) (name : String) (rows : List Json) : Store :=
  ⟨s.tables.map fun t => if t.1 == name then (t.1, rows) else t⟩

/-- **Other rows in a table change no other table**, and a missing table stays missing. -/
theorem rows?_withRows (s : Store) (name : String) (rows : List Json) (t : String) :
    (s.withRows name rows).rows? t =
      if t = name then (s.rows? t).map fun _ => rows else s.rows? t := by
  have hname : ∀ u : String × List Json,
      ((if u.1 == name then (u.1, rows) else u).1 == t) = (u.1 == t) := by
    intro u
    split <;> rfl
  simp only [withRows, rows?, List.find?_map, Function.comp_def, hname]
  cases hf : s.tables.find? (·.1 == t) with
  | none => simp
  | some u =>
      obtain rfl : u.1 = t := by simpa using List.find?_some hf
      by_cases hu : u.1 = name <;> simp [hu]

/-- Every row has its keys in order, as whatever was read from a text has them. -/
def Sorted (s : Store) : Prop := ∀ t ∈ s.tables, ∀ row ∈ t.2, row.Sorted

theorem Sorted.of_mem_table {s : Store} (h : s.Sorted) {name : String} {row : Json}
    (hr : row ∈ s.table name) : row.Sorted := by
  rw [table, rows?] at hr
  cases hf : s.tables.find? (·.1 == name) with
  | none => simp [hf] at hr
  | some t =>
      rw [hf] at hr
      exact h t (List.mem_of_find?_eq_some hf) row hr

theorem Sorted.insert {s : Store} (h : s.Sorted) (name : String) {rows : List Json}
    (hr : ∀ row ∈ rows, row.Sorted) : (s.insert name rows).Sorted := by
  intro t ht row hrow
  rw [Store.insert] at ht
  split at ht
  · obtain ⟨u, hu, rfl⟩ := List.mem_map.mp ht
    split at hrow
    · rcases List.mem_append.mp hrow with hrow | hrow
      · exact h u hu row hrow
      · exact hr row hrow
    · exact h u hu row hrow
  · rcases List.mem_append.mp ht with ht | ht
    · exact h t ht row hrow
    · rw [List.mem_singleton.mp ht] at hrow
      exact hr row hrow

theorem sorted_empty : empty.Sorted := fun _ ht => absurd ht List.not_mem_nil

theorem Sorted.withRows {s : Store} (h : s.Sorted) (name : String) {rows : List Json}
    (hr : ∀ row ∈ rows, row.Sorted) : (s.withRows name rows).Sorted := by
  intro t ht row hrow
  obtain ⟨u, hu, rfl⟩ := List.mem_map.mp ht
  split at hrow
  · exact hr row hrow
  · exact h u hu row hrow

/-- **A store made of rows with their keys in order is such a store.** -/
theorem sorted_ofTables {tables : List (String × List Json)}
    (h : ∀ t ∈ tables, ∀ row ∈ t.2, row.Sorted) : (ofTables tables).Sorted :=
  List.foldlRecOn tables _ sorted_empty fun _ hs t ht => hs.insert t.1 (h t ht)

theorem sorted_of_readDump {t : FileTree} {path : Path} {rows : List Json}
    (h : readDump t path = .ok rows) : ∀ row ∈ rows, row.Sorted := by
  rw [readDump] at h
  split at h
  · cases h
  · split at h
    · cases h
    · rw [readRows] at h
      split at h
      · rename_i hv
        cases h
        exact Json.sorted_of_mem_items (Json.sorted_of_parse? hv)
      · cases h

theorem sorted_of_loadFiles {t : FileTree} {dir : Path} {names : List String} {s s' : Store}
    (hs : s.Sorted) (h : loadFiles t dir names s = .ok s') : s'.Sorted := by
  induction names generalizing s with
  | nil =>
      cases h
      exact hs
  | cons name rest ih =>
      rw [loadFiles] at h
      split at h
      · exact ih hs h
      · split at h
        · cases h
        · rename_i rows hrows
          exact ih (hs.insert _ (sorted_of_readDump hrows)) h

/-- **A store that was loaded from a dump is such a store.** -/
theorem sorted_of_load {t : FileTree} {dir : Path} {s : Store} (h : load t dir = .ok s) :
    s.Sorted := by
  rw [load] at h
  split at h
  · cases h
  · exact sorted_of_loadFiles sorted_empty h

theorem mem_withKey {index key : String} {rows : List Json} {r : Json} :
    r ∈ withKey index key rows ↔ r ∈ rows ∧ r.key index = some key := by
  simp [withKey]

/-- The rows that one row is joined to, each changed in some way and laid over it. -/
def joinedWith (s : Store) (f : Json → Json) (field table index : String) (left : Json) :
    List Json :=
  match left.key field with
  | some key => (withKey index key (s.table table)).map fun right => Row.overlaid left (f right)
  | none => []

/-- The rows that one row is joined to, each laid over it. -/
def joined (s : Store) : String → String → String → Json → List Json := s.joinedWith id

section Joins

variable {s : Store} {row : Option Json} {q : Query} {lefts : List Json}
  {field table index : String}

theorem joinedWith_of_key {f : Json → Json} {left : Json} {key : String}
    (h : left.key field = some key) :
    s.joinedWith f field table index left =
      (withKey index key (s.table table)).map fun right => Row.overlaid left (f right) := by
  rw [joinedWith, h]

theorem joinedWith_congr {s' : Store} (h : s'.table table = s.table table) (f : Json → Json) :
    s'.joinedWith f field table index = s.joinedWith f field table index := by
  funext left
  rw [joinedWith, joinedWith, h]

/-- A joined row comes from a row of the other table with the key. -/
theorem exists_of_mem_joinedWith {f : Json → Json} {left r : Json}
    (h : r ∈ s.joinedWith f field table index left) :
    ∃ key, left.key field = some key ∧ ∃ right ∈ s.table table, right.key index = some key ∧
      r = Row.overlaid left (f right) := by
  cases hk : left.key field with
  | none => simp [joinedWith, hk] at h
  | some key =>
      rw [joinedWith_of_key hk] at h
      obtain ⟨right, hr, rfl⟩ := List.mem_map.mp h
      exact ⟨key, rfl, right, (mem_withKey.mp hr).1, (mem_withKey.mp hr).2, rfl⟩

/-- A joined row, its two parts and the key that they share. -/
theorem exists_fields_of_mem_joinedWith {f : Json → Json} {column : String}
    (hf : Row.ChangesOnly column f) (hs : s.Sorted) {left joinedRow : Json}
    (h : joinedRow ∈ s.joinedWith f field table index left) :
    ∃ (l r r' : Fields) (key : String), left = .obj l ∧ .obj r ∈ s.table table ∧
      left.key field = some key ∧ (Json.obj r).key index = some key ∧
      Fields.Ordered r' ∧ (∀ c, c ≠ column → Fields.get? c r' = Fields.get? c r) ∧
      joinedRow = Row.overlaid (.obj l) (.obj r') := by
  obtain ⟨key, hl, right, hmem, hr, rfl⟩ := exists_of_mem_joinedWith h
  obtain ⟨l, rfl, -⟩ := Json.exists_obj_of_key hl
  obtain ⟨r, rfl, -⟩ := Json.exists_obj_of_key hr
  obtain ⟨r', hr', ho, hc⟩ := hf r (Fields.ordered_of_sorted (hs.of_mem_table hmem))
  exact ⟨l, r, r', key, rfl, hmem, hl, hr, ho, hc, by rw [hr']⟩

theorem exists_fields_of_mem_joined (hs : s.Sorted) {left joinedRow : Json}
    (h : joinedRow ∈ s.joined field table index left) :
    ∃ (l r : Fields) (key : String), left = .obj l ∧ .obj r ∈ s.table table ∧
      left.key field = some key ∧ (Json.obj r).key index = some key ∧ Fields.Ordered r ∧
      joinedRow = Row.overlaid (.obj l) (.obj r) := by
  obtain ⟨key, hl, right, hmem, hr, rfl⟩ := exists_of_mem_joinedWith h
  obtain ⟨l, rfl, -⟩ := Json.exists_obj_of_key hl
  obtain ⟨r, rfl, -⟩ := Json.exists_obj_of_key hr
  exact ⟨l, r, key, rfl, hmem, hl, hr, Fields.ordered_of_sorted (hs.of_mem_table hmem), rfl⟩

/-- **A join by a column that the joined rows bring hides that column of its source.** -/
theorem blind_joined (hs : s.Sorted) (hne : field ≠ index) :
    Row.Blind index (s.joined field table index) := by
  intro a b hab
  rw [joined, joinedWith, joinedWith, hab.key_eq hne]
  cases (Json.obj b).key field with
  | none => rfl
  | some key =>
      refine List.map_congr_left fun right hr => ?_
      obtain ⟨hmem, hkey⟩ := mem_withKey.mp hr
      obtain ⟨r, rfl, v, hv⟩ := Json.exists_obj_of_key hkey
      have ho := Fields.ordered_of_sorted (hs.of_mem_table hmem)
      exact congrArg Json.obj (hab.overlay_eq ho (Option.isSome_iff_exists.mpr ⟨v, hv⟩))

/-- What follows a join does not see a column that the join does not go by. -/
theorem blind_flatMap {f : Json → Json} {column changed : String}
    (hf : Row.ChangesOnly changed f) (hs : s.Sorted) (hne : field ≠ column)
    {g : Json → List Json} (hg : Row.Blind column g) :
    Row.Blind column fun row => (s.joinedWith f field table index row).flatMap g := by
  intro a b hab
  simp only [joinedWith, hab.key_eq hne]
  cases (Json.obj b).key field with
  | none => rfl
  | some key =>
      simp only [List.flatMap_map]
      refine List.flatMap_congr fun right hr => ?_
      obtain ⟨hmem, hkey⟩ := mem_withKey.mp hr
      obtain ⟨r, rfl, -⟩ := Json.exists_obj_of_key hkey
      obtain ⟨r', hr', ho, -⟩ := hf r (Fields.ordered_of_sorted (hs.of_mem_table hmem))
      rw [hr', Row.overlaid_obj, Row.overlaid_obj]
      exact hg _ _ (hab.overlay ho)

/-- **A lookup yields the rows with each of its keys in turn.** -/
theorem eval_getAllBy (h : (s.rows? table).isSome) (row : Option Json) (ids : List String) :
    s.eval row (.getAllBy table index ids) =
      .ok (ids.flatMap fun id => withKey index id (s.table table)) := by
  have hlookups : ((ids.map Key.value).mapM fun key => do
      return withKey index (← resolveKey row key) (s.table table) :
        Except Failure (List (List Json))) =
      .ok (ids.map fun id => withKey index id (s.table table)) := by
    rw [List.mapM_map]
    exact mapM_of_forall fun _ _ => rfl
  rw [Query.getAllBy, eval, rows_eq h]
  simp only [bind, Except.bind, pure, Except.pure] at hlookups ⊢
  rw [hlookups]
  rfl

/-- A lookup by a column of the enclosing row. -/
theorem eval_related (h : (s.rows? table).isSome) {left : Json} {key : String}
    (hk : left.key field = some key) :
    s.eval (some left) (.related table index field) =
      .ok (withKey index key (s.table table)) := by
  simp only [Query.related, eval, rows_eq h, List.mapM_cons, List.mapM_nil, resolveKey,
    Option.bind_some, hk]
  exact congrArg Except.ok (List.flatten_singleton)

/-- A projection of what a query yields. -/
theorem eval_pluck (hq : s.eval row q = .ok lefts) (fields : List String) :
    s.eval row (.pluck q fields) = .ok (lefts.map (Row.pluck fields)) := by
  rw [eval, hq]
  rfl

/-- The rows of a table, each with the rows it is joined to. -/
theorem eval_eqJoin (hq : s.eval row q = .ok lefts) (h : (s.rows? table).isSome) :
    s.eval row (.eqJoin q field table index) =
      .ok (lefts.flatMap (joinRow field index (s.table table))) := by
  rw [eval, hq, rows_eq h]
  rfl

/-- Zipping the pairs of a join, each changed in its right row, lays rows over rows. -/
theorem mapM_zipRow {f : Json → Json} {g : Json → Json}
    (hf : ∀ (l : Json) (r : Fields), g (Row.pair l (.obj r)) = Row.pair l (f (.obj r)))
    (ho : ∀ r : Fields, ∃ r', f (.obj r) = .obj r') :
    ((lefts.flatMap (joinRow field index (s.table table))).map g).mapM zipRow =
      .ok (lefts.flatMap (s.joinedWith f field table index)) := by
  have hrow : ∀ left, ((joinRow field index (s.table table) left).map g).map zipRow =
      (s.joinedWith f field table index left).map .ok := by
    intro left
    cases hk : left.key field with
    | none => simp [joinRow, joinedWith, hk]
    | some key =>
        obtain ⟨l, rfl, -⟩ := Json.exists_obj_of_key hk
        simp only [joinRow, joinedWith, hk, List.map_map]
        refine List.map_congr_left fun right hr => ?_
        obtain ⟨r, rfl, -⟩ := Json.exists_obj_of_key (mem_withKey.mp hr).2
        obtain ⟨r', hr'⟩ := ho r
        simp only [Function.comp_apply, hf, hr', zipRow, Row.zip?_pair]
  rw [mapM_eq_ok_iff, List.map_map, List.map_flatMap, List.map_flatMap]
  refine List.flatMap_congr fun left _ => ?_
  rw [← hrow left, List.map_map]

/-- **A zipped join is a nested loop.** -/
theorem eval_zip_eqJoin (hq : s.eval row q = .ok lefts) (h : (s.rows? table).isSome) :
    s.eval row (.zip (.eqJoin q field table index)) =
      .ok (lefts.flatMap (s.joined field table index)) := by
  have hz : ((lefts.flatMap (joinRow field index (s.table table))).map id).mapM zipRow =
      .ok (lefts.flatMap (s.joinedWith id field table index)) :=
    mapM_zipRow (fun _ _ => rfl) fun r => ⟨r, rfl⟩
  rw [eval, eval_eqJoin hq h]
  rwa [List.map_id] at hz

/-- A zipped join in which a column of the right row is copied to another. -/
theorem eval_zip_copyField_eqJoin (hq : s.eval row q = .ok lefts) (h : (s.rows? table).isSome)
    (origin target : String) :
    s.eval row (.zip (.copyField (.eqJoin q field table index)
        ["right", origin] ["right", target])) =
      .ok (lefts.flatMap (s.joinedWith (Row.copyField [origin] [target]) field table index)) := by
  rw [eval, eval, eval_eqJoin hq h]
  exact mapM_zipRow (fun l r => Row.copyField_right l r origin target)
    fun r => ⟨_, Row.copyField_obj r origin target⟩

end Joins

end Store

/-! ## 3. The tables that a query reads -/

namespace Query

mutual

/-- The names of the tables that a query reads. -/
def tables : Query → List String
  | .table name => [name]
  | .getAll name _ _ => [name]
  | .pluck source _ => tables source
  | .eqJoin source _ name _ => tables source ++ [name]
  | .zip source => tables source
  | .copyField source _ _ => tables source
  | .merge source fields => tables source ++ fieldTables fields

/-- The names of the tables that attached queries read. -/
def fieldTables : List (String × Query) → List String
  | [] => []
  | (_, query) :: rest => tables query ++ fieldTables rest

end

/-- The tables that a query reads whatever rows it comes to, those of attached queries left out. -/
def spine : Query → List String
  | .table name => [name]
  | .getAll name _ _ => [name]
  | .eqJoin source _ name _ => spine source ++ [name]
  | .pluck source _ | .zip source | .copyField source _ _ | .merge source _ => spine source

/-- Where a query takes the rows from that it starts with. -/
def leaf : Query → Query
  | .table name => .table name
  | .getAll name index keys => .getAll name index keys
  | .eqJoin source _ _ _ | .pluck source _ | .zip source | .copyField source _ _ | .merge source _ =>
    leaf source

/-- The tables that a query reads whatever rows it comes to are among those that it names. -/
theorem mem_tables_of_mem_spine : ∀ {q : Query} {t : String}, t ∈ q.spine → t ∈ q.tables
  | .table _, _, h | .getAll _ _ _, _, h => h
  | .eqJoin source _ _ _, _, h => by
      rw [spine, List.mem_append] at h
      rw [tables, List.mem_append]
      exact h.imp_left mem_tables_of_mem_spine
  | .pluck source _, _, h | .zip source, _, h | .copyField source _ _, _, h =>
      mem_tables_of_mem_spine (q := source) h
  | .merge source _, _, h => List.mem_append_left _ (mem_tables_of_mem_spine (q := source) h)

end Query

namespace Store

variable {s s' : Store}

mutual

/-- **A query sees no other tables than those that it names.** -/
theorem eval_congr : ∀ (q : Query) (row : Option Json),
    (∀ t ∈ q.tables, s.rows? t = s'.rows? t) → s.eval row q = s'.eval row q
  | .table name, row, h => by
      rw [eval, eval, rows, rows, h name (by simp [Query.tables])]
  | .getAll table index keys, row, h => by
      rw [eval, eval, rows, rows, h table (by simp [Query.tables])]
  | .pluck source fields, row, h => by
      rw [eval, eval, eval_congr source row h]
  | .eqJoin source field table index, row, h => by
      rw [eval, eval, eval_congr source row fun t ht => h t (by simp [Query.tables, ht]), rows, rows,
        h table (by simp [Query.tables])]
  | .zip source, row, h => by
      rw [eval, eval, eval_congr source row h]
  | .copyField source origin target, row, h => by
      rw [eval, eval, eval_congr source row h]
  | .merge source fields, row, h => by
      have hf : s.attachAll fields = s'.attachAll fields :=
        funext fun r => attachAll_congr fields r fun t ht => h t (by simp [Query.tables, ht])
      rw [eval, eval, eval_congr source row fun t ht => h t (by simp [Query.tables, ht]), hf]

theorem attachAll_congr : ∀ (fields : List (String × Query)) (row : Json),
    (∀ t ∈ Query.fieldTables fields, s.rows? t = s'.rows? t) →
      s.attachAll fields row = s'.attachAll fields row
  | [], row, h => by rw [attachAll, attachAll]
  | (name, query) :: rest, row, h => by
      have hrest : s.attachAll rest = s'.attachAll rest :=
        funext fun r => attachAll_congr rest r fun t ht => h t (by simp [Query.fieldTables, ht])
      rw [attachAll, attachAll,
        eval_congr query (some row) fun t ht => h t (by simp [Query.fieldTables, ht]), hrest]

end

/-- **A query that yields rows has found its tables.** -/
theorem isSome_of_eval : ∀ {q : Query} {row : Option Json} {found : List Json},
    s.eval row q = .ok found → ∀ t ∈ q.spine, (s.rows? t).isSome
  | .table name, row, found, h, t, ht => by
      rw [eval] at h
      obtain rfl := List.mem_singleton.mp ht
      exact isSome_of_rows h
  | .getAll table index keys, row, found, h, t, ht => by
      rw [eval, bind_eq_ok_iff] at h
      obtain ⟨rows, hrows, -⟩ := h
      obtain rfl := List.mem_singleton.mp ht
      exact isSome_of_rows hrows
  | .eqJoin source field table index, row, found, h, t, ht => by
      rw [eval, bind_eq_ok_iff] at h
      obtain ⟨lefts, hl, h⟩ := h
      obtain ⟨rights, hr, -⟩ := bind_eq_ok_iff.mp h
      rcases List.mem_append.mp ht with ht | ht
      · exact isSome_of_eval hl t ht
      · obtain rfl := List.mem_singleton.mp ht
        exact isSome_of_rows hr
  | .pluck source fields, row, found, h, t, ht => by
      rw [eval, bind_eq_ok_iff] at h
      obtain ⟨rows, hrows, -⟩ := h
      exact isSome_of_eval hrows t ht
  | .zip source, row, found, h, t, ht => by
      rw [eval, bind_eq_ok_iff] at h
      obtain ⟨rows, hrows, -⟩ := h
      exact isSome_of_eval hrows t ht
  | .copyField source origin target, row, found, h, t, ht => by
      rw [eval, bind_eq_ok_iff] at h
      obtain ⟨rows, hrows, -⟩ := h
      exact isSome_of_eval hrows t ht
  | .merge source fields, row, found, h, t, ht => by
      rw [eval, bind_eq_ok_iff] at h
      obtain ⟨rows, hrows, -⟩ := h
      exact isSome_of_eval hrows t ht

/-- Attaching lists leaves the other columns alone. -/
theorem get?_of_attachAll {fields : List (String × Query)} {fs : Fields} {full : Json}
    (h : s.attachAll fields (.obj fs) = .ok full) :
    ∃ fs', full = .obj fs' ∧
      ∀ c, c ∉ fields.map (·.1) → Fields.get? c fs' = Fields.get? c fs := by
  induction fields generalizing fs with
  | nil =>
      rw [attachAll] at h
      exact ⟨fs, (Except.ok.inj h).symm, fun _ _ => rfl⟩
  | cons f rest ih =>
      obtain ⟨name, query⟩ := f
      rw [attachAll, bind_eq_ok_iff] at h
      obtain ⟨nested, -, h⟩ := h
      obtain ⟨fs', rfl, hfs'⟩ := ih h
      refine ⟨fs', rfl, fun c hc => ?_⟩
      rw [List.map_cons, List.mem_cons, not_or] at hc
      rw [hfs' c hc.2, Fields.get?_put_of_ne hc.1]

/-- Lists that are attached have found their tables. -/
theorem isSome_of_attachAll {fields : List (String × Query)} {row full : Json}
    (h : s.attachAll fields row = .ok full) :
    ∀ f ∈ fields, ∀ t ∈ f.2.spine, (s.rows? t).isSome := by
  induction fields generalizing row with
  | nil => simp
  | cons f rest ih =>
      rw [attachAll, bind_eq_ok_iff] at h
      obtain ⟨nested, hnested, h⟩ := h
      exact List.forall_mem_cons.mpr ⟨isSome_of_eval hnested, ih h⟩

/-- A lookup by a column of the enclosing row depends on the rows with its key. -/
theorem eval_related_congr {table index field key : String} {row : Json}
    (h : (s.rows? table).isSome) (h' : (s'.rows? table).isSome) (hk : row.key field = some key)
    (heq : withKey index key (s.table table) = withKey index key (s'.table table)) :
    s.eval (some row) (.related table index field) =
      s'.eval (some row) (.related table index field) := by
  rw [eval_related h hk, eval_related h' hk, heq]

/-- A zipped join depends on its source and on the table that is joined. -/
theorem eval_zip_eqJoin_congr {q : Query} {row : Option Json} {field table index : String}
    (hq : s.eval row q = s'.eval row q) (h : s.rows? table = s'.rows? table) :
    s.eval row (.zip (.eqJoin q field table index)) =
      s'.eval row (.zip (.eqJoin q field table index)) := by
  simp only [eval, rows, hq, h]

/-- **The lists of a row depend on what their queries yield for its key**, where no list hides the
    key. -/
theorem attachAll_eq_of_key {fields : List (String × Query)} {column key : String}
    (hc : column ∉ fields.map (·.1))
    (h : ∀ f ∈ fields, ∀ row : Json, row.key column = some key →
      s.eval (some row) f.2 = s'.eval (some row) f.2)
    {fs : Fields} (hrow : (Json.obj fs).key column = some key) :
    s.attachAll fields (.obj fs) = s'.attachAll fields (.obj fs) := by
  induction fields generalizing fs with
  | nil => rw [attachAll, attachAll]
  | cons f rest ih =>
      rw [List.map_cons, List.mem_cons, not_or] at hc
      rw [List.forall_mem_cons] at h
      rw [attachAll, attachAll, h.1 _ hrow]
      exact bind_congr fun nested => ih hc.2 h.2 ((Row.key_attach hc.1 nested _).trans hrow)

end Store

end LabIndex
