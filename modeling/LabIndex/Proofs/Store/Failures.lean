import LabIndex.Proofs.Store.Evaluation

/-!
# How queries fail

A query fails where a table is missing, where it looks up by a field that the enclosing row does not
have, and where a pair that it zips is not one of two objects. Rows that are joined have a key and so
are objects, whatever else is in a table: the last never happens to what a join makes.

* `Query.Joining`: queries that zip nothing but joins;
* `Store.eval_eq_error_of_leaf`: a query fails with the rows that it starts with;
* `Store.eval_eq_error`: where a joining query fails;
* `Store.attachAll_eq_error`: where attaching lists to a row fails, if they all go by one column of it,
  and `Store.attachAll_eq_error_of_key`: it does fail at a row without that column.
-/

namespace LabIndex

/-- The failure at a table that is missing. -/
def Failure.missingTable (name : String) : Failure := .query ("Table `" ++ name ++ "` does not exist")

/-- The failure at a row without the field that is looked up by. -/
def Failure.missingField (field : String) : Failure :=
  .query ("Row field `" ++ field ++ "` is not available")

/-! ## 1. Queries that zip joins -/

namespace Query

/-- Pairs are zipped as a join makes them, or with one column of the right row copied to another. -/
inductive Joining : Query → Prop
  | table (name : String) : Joining (.table name)
  | getAll (name index : String) (keys : List Key) : Joining (.getAll name index keys)
  | pluck {source : Query} (h : Joining source) (fields : List String) :
      Joining (.pluck source fields)
  | join {source : Query} (h : Joining source) (field name index : String) :
      Joining (.zip (.eqJoin source field name index))
  | copying {source : Query} (h : Joining source) (field name index origin target : String) :
      Joining (.zip (.copyField (.eqJoin source field name index) ["right", origin] ["right", target]))

/-- A query reads the table of its first lookup. -/
theorem mem_spine_of_leaf : ∀ {q : Query} {name index : String} {keys : List Key},
    q.leaf = .getAll name index keys → name ∈ q.spine
  | .table _, _, _, _, h => by cases h
  | .getAll _ _ _, _, _, _, h => by
      cases h
      exact List.mem_singleton_self _
  | .eqJoin source _ _ _, _, _, _, h =>
      List.mem_append_left _ (mem_spine_of_leaf (q := source) h)
  | .pluck source _, _, _, _, h | .zip source, _, _, _, h | .copyField source _ _, _, _, _, h
  | .merge source _, _, _, _, h => mem_spine_of_leaf (q := source) h

/-- A query looks up by no field of an enclosing row. -/
def Closed (q : Query) : Prop :=
  ∀ name index keys, q.leaf = .getAll name index keys → ∀ field, Key.row field ∉ keys

/-- A joining query looks up by one field of the enclosing row. -/
def GoesBy (column : String) (q : Query) : Prop :=
  q.Joining ∧ ∃ name index, q.leaf = .related name index column

end Query

namespace Store

variable {s : Store} {row : Option Json} {q : Query} {f : Failure}

theorem rows_eq_error_iff {name : String} :
    s.rows name = .error f ↔ s.rows? name = none ∧ f = .missingTable name := by
  rw [rows]
  cases s.rows? name with
  | none => simp [Failure.missingTable, eq_comm]
  | some found => simp

theorem resolveKey_eq_error_iff {key : Key} : resolveKey row key = .error f ↔
    ∃ field, key = .row field ∧ row.bind (·.key field) = none ∧ f = .missingField field := by
  cases key with
  | value k => simp [resolveKey]
  | row field =>
      rw [resolveKey]
      constructor
      · intro h
        split at h
        · cases h
        · rename_i hk
          exact ⟨field, rfl, hk, (Except.error.inj h).symm⟩
      · rintro ⟨_, hkey, hk, rfl⟩
        cases hkey
        rw [hk]
        rfl

/-- A lookup fails at its table, or at a field that it goes by. -/
theorem eval_getAll_eq_error {name index : String} {keys : List Key}
    (h : s.eval row (.getAll name index keys) = .error f) :
    (s.rows? name = none ∧ f = .missingTable name) ∨
      ∃ field, Key.row field ∈ keys ∧ row.bind (·.key field) = none ∧ f = .missingField field := by
  rw [eval] at h
  rcases bind_eq_error_iff.mp h with hrows | ⟨found, -, h⟩
  · exact .inl (rows_eq_error_iff.mp hrows)
  · rcases bind_eq_error_iff.mp h with hkeys | ⟨lists, -, hlists⟩
    · obtain ⟨key, hmem, hkey⟩ := exists_mem_of_mapM_eq_error hkeys
      rcases bind_eq_error_iff.mp hkey with hkey | ⟨k, -, hk⟩
      · obtain ⟨field, rfl, hfield⟩ := resolveKey_eq_error_iff.mp hkey
        exact .inr ⟨field, hmem, hfield⟩
      · cases hk
    · cases hlists

/-- A lookup by a column that the enclosing row does not have. -/
theorem eval_related_eq_error {table index field : String} {left : Json}
    (h : (s.rows? table).isSome) (hk : left.key field = none) :
    s.eval (some left) (.related table index field) = .error (.missingField field) := by
  have hkey : resolveKey (some left) (.row field) = .error (.missingField field) :=
    resolveKey_eq_error_iff.mpr ⟨field, rfl, hk, rfl⟩
  rw [Query.related, eval, rows_eq h]
  dsimp only [bind, Except.bind]
  rw [List.mapM_cons, hkey]
  rfl

/-- **A query fails with the rows that it starts with.** -/
theorem eval_eq_error_of_leaf : ∀ {q : Query}, s.eval row q.leaf = .error f →
    s.eval row q = .error f
  | .table _, h | .getAll _ _ _, h => h
  | .eqJoin source _ _ _, h | .pluck source _, h | .zip source, h | .copyField source _ _, h
  | .merge source _, h => by
      have hsource := eval_eq_error_of_leaf (q := source) h
      rw [eval, hsource]
      rfl

/-- What is made of a join fails at the source of the join or at its table, if it fails with the join
    alone. -/
theorem eval_eq_error_of_join {source : Query} {field name index : String}
    (hfails : ∀ g, s.eval row (.eqJoin source field name index) = .error g → s.eval row q = .error g)
    (hfinds : ∀ lefts, s.eval row source = .ok lefts → (s.rows? name).isSome →
      ∃ found, s.eval row q = .ok found) (h : s.eval row q = .error f) :
    s.eval row source = .error f ∨ (s.rows? name = none ∧ f = .missingTable name) := by
  cases hsource : s.eval row source with
  | error g =>
      have hjoin := hfails g (by rw [eval, hsource]; rfl)
      rw [h] at hjoin
      cases hjoin
      exact .inl rfl
  | ok lefts =>
      cases hrows : s.rows? name with
      | none =>
          have hjoin := hfails (.missingTable name)
            (by rw [eval, hsource, rows_eq_error_iff.mpr ⟨hrows, rfl⟩]; rfl)
          rw [h] at hjoin
          exact .inr ⟨rfl, Except.error.inj hjoin⟩
      | some rights =>
          obtain ⟨found, hfound⟩ := hfinds lefts hsource (by rw [hrows]; rfl)
          rw [h] at hfound
          cases hfound

/-- **A joining query fails at a missing table, or at a field that its first lookup goes by**, never
    at what is in the tables. -/
theorem eval_eq_error (hq : q.Joining) (h : s.eval row q = .error f) :
    (∃ name ∈ q.spine, s.rows? name = none ∧ f = .missingTable name) ∨
      ∃ name index keys field, q.leaf = .getAll name index keys ∧ Key.row field ∈ keys ∧
        row.bind (·.key field) = none ∧ f = .missingField field := by
  induction hq with
  | table name =>
      rw [eval, rows_eq_error_iff] at h
      exact .inl ⟨name, List.mem_singleton_self name, h⟩
  | getAll name index keys =>
      rcases eval_getAll_eq_error h with h | ⟨field, h⟩
      · exact .inl ⟨name, List.mem_singleton_self name, h⟩
      · exact .inr ⟨name, index, keys, field, rfl, h⟩
  | pluck _ fields ih =>
      rw [eval] at h
      rcases bind_eq_error_iff.mp h with h | ⟨found, -, hfound⟩
      · exact ih h
      · cases hfound
  | join _ field name index ih =>
      rcases eval_eq_error_of_join (fun g hg => by rw [eval, hg]; rfl)
        (fun lefts hl ht => ⟨_, eval_zip_eqJoin hl ht⟩) h with h | h
      · exact (ih h).imp_left fun ⟨t, ht, hmissing⟩ => ⟨t, List.mem_append_left _ ht, hmissing⟩
      · exact .inl ⟨name, List.mem_append_right _ (List.mem_singleton_self name), h⟩
  | copying _ field name index origin target ih =>
      rcases eval_eq_error_of_join (fun g hg => by rw [eval, eval, hg]; rfl)
        (fun lefts hl ht => ⟨_, eval_zip_copyField_eqJoin hl ht origin target⟩) h with h | h
      · exact (ih h).imp_left fun ⟨t, ht, hmissing⟩ => ⟨t, List.mem_append_left _ ht, hmissing⟩
      · exact .inl ⟨name, List.mem_append_right _ (List.mem_singleton_self name), h⟩

/-- A joining query that looks up by no field fails at a missing table alone. -/
theorem eval_eq_error_of_closed (hq : q.Joining) (hclosed : q.Closed) (h : s.eval row q = .error f) :
    ∃ name ∈ q.spine, s.rows? name = none ∧ f = .missingTable name := by
  rcases eval_eq_error hq h with h | ⟨name, index, keys, field, hleaf, hfield, -⟩
  · exact h
  · exact absurd hfield (hclosed name index keys hleaf field)

/-! ## 2. Attached lists -/

section Attaching

variable {fields : List (String × Query)} {column : String} {row : Json}

/-- **Lists that go by one column of a row fail at a missing table, or as the row has no such column.**
    None of them may hide the column. -/
theorem attachAll_eq_error (hc : column ∉ fields.map (·.1)) (hf : ∀ e ∈ fields, e.2.GoesBy column)
    (h : s.attachAll fields row = .error f) :
    (∃ name ∈ Query.fieldTables fields, s.rows? name = none ∧ f = .missingTable name) ∨
      (row.key column = none ∧ f = .missingField column) := by
  induction fields generalizing row with
  | nil => rw [attachAll] at h; cases h
  | cons e rest ih =>
      obtain ⟨name, query⟩ := e
      rw [List.map_cons, List.mem_cons, not_or] at hc
      rw [List.forall_mem_cons] at hf
      obtain ⟨⟨hjoining, table, index, hleaf⟩, hrest⟩ := hf
      rw [attachAll] at h
      rcases bind_eq_error_iff.mp h with h | ⟨found, -, h⟩
      · rcases eval_eq_error hjoining h with ⟨t, ht, hmissing⟩ | ⟨_, _, keys, field, hkeys, hfield, hkey⟩
        · exact .inl ⟨t, List.mem_append_left _ (Query.mem_tables_of_mem_spine ht), hmissing⟩
        · rw [hleaf, Query.related] at hkeys
          cases hkeys
          cases List.mem_singleton.mp hfield
          exact .inr hkey
      · rcases ih hc.2 hrest h with ⟨t, ht, hmissing⟩ | hkey
        · exact .inl ⟨t, List.mem_append_right _ ht, hmissing⟩
        · rw [Row.key_attach hc.1] at hkey
          exact .inr hkey

/-- **At a row without the column they do fail.** -/
theorem attachAll_eq_error_of_key (hne : fields ≠ []) (hf : ∀ e ∈ fields, e.2.GoesBy column)
    (htables : ∀ name ∈ Query.fieldTables fields, (s.rows? name).isSome)
    (hkey : row.key column = none) : s.attachAll fields row = .error (.missingField column) := by
  cases fields with
  | nil => exact absurd rfl hne
  | cons e rest =>
      obtain ⟨name, query⟩ := e
      obtain ⟨-, table, index, hleaf⟩ := hf _ List.mem_cons_self
      have htable := htables table
        (List.mem_append_left _ (Query.mem_tables_of_mem_spine (Query.mem_spine_of_leaf hleaf)))
      have hfirst : s.eval (some row) query = .error (.missingField column) :=
        eval_eq_error_of_leaf (by rw [hleaf]; exact eval_related_eq_error htable hkey)
      rw [attachAll, hfirst]
      rfl

end Attaching

end Store

end LabIndex
