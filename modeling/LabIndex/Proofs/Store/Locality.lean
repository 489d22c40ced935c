import LabIndex.Proofs.Store.Evaluation

/-!
# Queries go row by row

A query starts from the rows of one table, or from those with one key, and takes each further by
itself: it projects it, joins it, zips it or attaches lists to it, and none of that looks at the
rows before or after it. So where the table is named only there, its rows can be split at any place:
the query yields what it yields for the one part and then what it yields for the other, and it fails
exactly if it fails for one of them.

* `Store.setRows`: a store with given rows in a table;
* `Splits`: an answer for a list that is put together from the answers for its two parts, and the
  steps that keep this;
* `Query.DrivenBy`: a query that starts from the rows of a table;
* `Store.splits_eval`: queries split with the rows of the table that drives them;
* `Store.eval_setRows_append`: the same, said of rows that are added to a table.
-/

namespace LabIndex

/-! ## 1. Tables with given rows -/

namespace Store

/-- A store with exactly these rows in a table, whatever it had there. -/
def setRows (s : Store) (t : String) (rows : List Json) : Store :=
  ⟨(t, rows) :: s.tables.filter (·.1 != t)⟩

theorem rows?_setRows (s : Store) (t : String) (rows : List Json) (u : String) :
    (s.setRows t rows).rows? u = if u = t then some rows else s.rows? u := by
  by_cases hu : u = t
  · subst hu
    simp [setRows, rows?]
  · have hne : (t == u) = false := beq_eq_false_iff_ne.mpr (Ne.symm hu)
    -- what was left out is not looked for
    have hfind : (s.tables.filter (·.1 != t)).find? (·.1 == u) = s.tables.find? (·.1 == u) := by
      rw [List.find?_filter]
      congr 1
      funext e
      by_cases he : e.1 = u <;> simp [he, hu]
    rw [setRows, rows?, List.find?_cons, hne, hfind, if_neg hu, rows?]

theorem rows_setRows_self (s : Store) (t : String) (rows : List Json) :
    (s.setRows t rows).rows t = .ok rows := by
  rw [Store.rows, rows?_setRows, if_pos rfl]

theorem rows_setRows_of_ne (s : Store) {t u : String} (h : u ≠ t) (rows : List Json) :
    (s.setRows t rows).rows u = s.rows u := by
  rw [Store.rows, rows?_setRows, if_neg h, Store.rows]

/-- A query does not see the rows of a table that it does not name. -/
theorem attachAll_setRows (s : Store) {t : String} {fields : List (String × Query)}
    (h : t ∉ Query.fieldTables fields) (rows : List Json) :
    (s.setRows t rows).attachAll fields = s.attachAll fields := by
  refine funext fun row => attachAll_congr fields row fun u hu => ?_
  have hne : u ≠ t := fun e => h (e ▸ hu)
  rw [rows?_setRows, if_neg hne]

end Store

/-! ## 2. Answers that split -/

section Splitting

variable {α β ε : Type} {x y z : Except ε (List α)}

/-- The first answer is a value exactly if the two others are, and then it is theirs put
    together. -/
def Splits (x y z : Except ε (List α)) : Prop :=
  ∀ found, x = .ok found ↔ ∃ first second, y = .ok first ∧ z = .ok second ∧ found = first ++ second

theorem splits_ok (first second : List α) :
    Splits (.ok (first ++ second) : Except ε (List α)) (.ok first) (.ok second) := by
  intro found
  constructor
  · intro h
    exact ⟨first, second, rfl, rfl, (Except.ok.inj h).symm⟩
  · rintro ⟨_, _, h, h', rfl⟩
    cases h
    cases h'
    rfl

theorem splits_error (e : ε) : Splits (.error e : Except ε (List α)) (.error e) (.error e) := by
  intro found
  constructor
  · intro h
    cases h
  · rintro ⟨_, _, h, -⟩
    cases h

/-- A step splits what it is given. -/
def SplitsRows (f : List α → Except ε (List β)) : Prop :=
  ∀ first second, Splits (f (first ++ second)) (f first) (f second)

/-- **What splits still does after a step that does.** -/
theorem Splits.bind (h : Splits x y z) {f : List α → Except ε (List β)} (hf : SplitsRows f) :
    Splits (x >>= f) (y >>= f) (z >>= f) := by
  intro found
  simp only [bind_eq_ok_iff]
  constructor
  · rintro ⟨rows, hx, hrows⟩
    obtain ⟨first, second, hy, hz, rfl⟩ := (h rows).mp hx
    obtain ⟨found₁, found₂, h₁, h₂, rfl⟩ := (hf first second found).mp hrows
    exact ⟨found₁, found₂, ⟨first, hy, h₁⟩, ⟨second, hz, h₂⟩, rfl⟩
  · rintro ⟨found₁, found₂, ⟨first, hy, h₁⟩, ⟨second, hz, h₂⟩, rfl⟩
    exact ⟨first ++ second, (h _).mpr ⟨first, second, hy, hz, rfl⟩,
      (hf first second _).mpr ⟨found₁, found₂, h₁, h₂, rfl⟩⟩

/-- A step that takes each row by itself and may fail at it. -/
theorem splitsRows_mapM (f : α → Except ε β) : SplitsRows (fun rows => rows.mapM f) := by
  intro first second found
  simp only [List.mapM_append, bind_eq_ok_iff]
  constructor
  · rintro ⟨found₁, h₁, found₂, h₂, h⟩
    exact ⟨found₁, found₂, h₁, h₂, (Except.ok.inj h).symm⟩
  · rintro ⟨found₁, found₂, h₁, h₂, rfl⟩
    exact ⟨found₁, h₁, found₂, h₂, rfl⟩

/-- A step that makes some rows of each. -/
theorem splitsRows_flatMap (f : α → List β) :
    SplitsRows (fun rows => (.ok (rows.flatMap f) : Except ε (List β))) := by
  intro first second
  simp only [List.flatMap_append]
  exact splits_ok _ _

theorem splitsRows_map (f : α → β) :
    SplitsRows (fun rows => (.ok (rows.map f) : Except ε (List β))) := by
  intro first second
  simp only [List.map_append]
  exact splits_ok _ _

/-- A step that always fails. -/
theorem splitsRows_error (e : ε) :
    SplitsRows (fun _ : List α => (.error e : Except ε (List β))) := fun _ _ => splits_error e

end Splitting

/-! ## 3. Queries -/

namespace Query

/-- A query starts from all rows of a table, or from those with one key that it names itself. -/
def DrivenBy (t : String) (q : Query) : Prop :=
  q.leaf = .table t ∨ ∃ index key, q.leaf = .getAll t index [.value key]

theorem mem_tables_of_drivenBy : ∀ {q : Query} {t : String}, q.DrivenBy t → t ∈ q.tables
  | .table _, _, h => by
      rcases h with h | ⟨_, _, h⟩ <;> cases h
      exact List.mem_singleton_self _
  | .getAll _ _ _, _, h => by
      rcases h with h | ⟨_, _, h⟩ <;> cases h
      exact List.mem_singleton_self _
  | .pluck source _, _, h | .zip source, _, h | .copyField source _ _, _, h =>
      mem_tables_of_drivenBy (q := source) h
  | .eqJoin source _ _ _, _, h | .merge source _, _, h =>
      List.mem_append_left _ (mem_tables_of_drivenBy (q := source) h)

/-- A table that is named once where the rows come from is not named in what is done with them. -/
theorem count_of_append {t : String} {source : Query} {more : List String}
    (hq : source.DrivenBy t) (h : (source.tables ++ more).count t = 1) :
    source.tables.count t = 1 ∧ t ∉ more := by
  have hpos : 0 < source.tables.count t := List.count_pos_iff.mpr (mem_tables_of_drivenBy hq)
  rw [List.count_append] at h
  exact ⟨by omega, List.count_eq_zero.mp (by omega)⟩

end Query

namespace Store

variable {s : Store} {t : String} {row : Option Json}

/-- **A query splits with the rows of the table that drives it.** -/
theorem splits_eval (a b : List Json) : ∀ {q : Query}, q.DrivenBy t → q.tables.count t = 1 →
    Splits ((s.setRows t (a ++ b)).eval row q) ((s.setRows t a).eval row q)
      ((s.setRows t b).eval row q)
  | .table _, h, _ => by
      rcases h with h | ⟨_, _, h⟩ <;> cases h
      simp only [eval, rows_setRows_self]
      exact splits_ok a b
  | .getAll _ index _, h, _ => by
      rcases h with h | ⟨_, key, h⟩ <;> cases h
      have hlookup : ∀ rows, (s.setRows t rows).eval row (.getAll t index [.value key]) =
          .ok (withKey index key rows) := by
        intro rows
        simp only [eval, rows_setRows_self, List.mapM_cons, List.mapM_nil, resolveKey]
        exact congrArg Except.ok List.flatten_singleton
      rw [hlookup, hlookup, hlookup, withKey, List.filter_append]
      exact splits_ok _ _
  | .pluck source fields, h, hone => by
      simp only [eval]
      exact (splits_eval a b (q := source) h hone).bind (splitsRows_map _)
  | .copyField source origin target, h, hone => by
      simp only [eval]
      exact (splits_eval a b (q := source) h hone).bind (splitsRows_map _)
  | .zip source, h, hone => by
      simp only [eval]
      exact (splits_eval a b (q := source) h hone).bind (splitsRows_mapM _)
  | .eqJoin source field table index, h, hone => by
      have hdriven : source.DrivenBy t := h
      obtain ⟨hsource, hmore⟩ := Query.count_of_append hdriven hone
      have hne : table ≠ t := fun e => hmore (List.mem_singleton.mpr e.symm)
      simp only [eval, rows_setRows_of_ne s hne]
      refine (splits_eval a b hdriven hsource).bind ?_
      -- the rows that are joined are the same, or are missing alike
      cases s.rows table with
      | error f => exact splitsRows_error f
      | ok rights => exact splitsRows_flatMap _
  | .merge source fields, h, hone => by
      have hdriven : source.DrivenBy t := h
      obtain ⟨hsource, hmore⟩ := Query.count_of_append hdriven hone
      simp only [eval, attachAll_setRows s hmore]
      exact (splits_eval a b hdriven hsource).bind (splitsRows_mapM _)

/-- **Queries are local to rows.** If a query starts from the rows of a table, or from those with
    one key, and names that table nowhere else, then with rows and more rows in the table it
    succeeds exactly if it does with the ones and with the others, and it yields what it yields for
    the ones followed by what it yields for the others. So rows that are inserted into the table
    add to what the query yields, at its end, and change nothing before that. -/
theorem eval_setRows_append {q : Query} (hq : q.DrivenBy t) (hone : q.tables.count t = 1)
    (s : Store) (row : Option Json) (a b found : List Json) :
    ((s.setRows t (a ++ b)).eval row q = .ok found ↔
      ∃ first second, (s.setRows t a).eval row q = .ok first ∧
        (s.setRows t b).eval row q = .ok second ∧ found = first ++ second) ∧
    ((s.rows? t).isSome → ((s.insert t b).eval row q = .ok found ↔
      ∃ first second, s.eval row q = .ok first ∧ (s.setRows t b).eval row q = .ok second ∧
        found = first ++ second)) := by
  refine ⟨splits_eval a b hq hone found, fun h => ?_⟩
  obtain ⟨rows, hrows⟩ := Option.isSome_iff_exists.mp h
  -- inserting is putting in the old rows and the new ones
  have hs : s.eval row q = (s.setRows t rows).eval row q := by
    refine eval_congr q row fun u _ => ?_
    rw [rows?_setRows]
    split
    · rename_i hu
      rw [hu, hrows]
    · rfl
  have hinsert : (s.insert t b).eval row q = (s.setRows t (rows ++ b)).eval row q := by
    refine eval_congr q row fun u _ => ?_
    rw [rows?_insert, rows?_setRows, table, hrows, Option.getD_some]
  rw [hs, hinsert]
  exact splits_eval rows b hq hone found

/-- The samples of all projects, each with its tags. -/
def taggedSamples : Query :=
  .merge (.zip (.eqJoin (.table "projects") "id" "project2sample" "project_id"))
    [("tags", .related "tag2item" "item_id" "sample_id")]

/-- Two linked samples, one of them with a tag, and no projects. -/
def linkedSamples : Store := ofTables [
  ("project2sample", [.obj [("project_id", .str "p-1"), ("sample_id", .str "s-1")],
    .obj [("project_id", .str "p-2"), ("sample_id", .str "s-2")]]),
  ("tag2item", [.obj [("item_id", .str "s-2"), ("tag_id", .str "weld")]])]

/-- A second project adds its sample to that of the first. -/
theorem eval_setRows_append_projects :
    let first : List Json := [.obj [("id", .str "p-1")]]
    let second : List Json := [.obj [("id", .str "p-2")]]
    let s := linkedSamples.setRows "projects" first
    taggedSamples.DrivenBy "projects" ∧ taggedSamples.tables.count "projects" = 1 ∧
      (s.rows? "projects").isSome ∧
      ∃ found more, s.query taggedSamples = .ok found ∧ found.length = 1 ∧ more.length = 1 ∧
        (linkedSamples.setRows "projects" (first ++ second)).query taggedSamples =
          .ok (found ++ more) ∧
        (s.insert "projects" second).query taggedSamples = .ok (found ++ more) := by
  intro first second s
  have hq : taggedSamples.DrivenBy "projects" := .inl rfl
  have hone : taggedSamples.tables.count "projects" = 1 := by decide
  have hsome : (s.rows? "projects").isSome := rfl
  obtain ⟨found, hfound, hlength⟩ : ∃ found, s.query taggedSamples = .ok found ∧
      found.length = 1 := ⟨_, rfl, rfl⟩
  obtain ⟨more, hmore, hlength'⟩ : ∃ more,
      (linkedSamples.setRows "projects" second).query taggedSamples = .ok more ∧
        more.length = 1 := ⟨_, rfl, rfl⟩
  refine ⟨hq, hone, hsome, found, more, hfound, hlength, hlength', ?_, ?_⟩
  · exact (eval_setRows_append hq hone linkedSamples none first second _).1.mpr
      ⟨found, more, hfound, hmore, rfl⟩
  · exact ((eval_setRows_append hq hone s none first second _).2 hsome).mpr
      ⟨found, more, hfound, hmore, rfl⟩

end Store

end LabIndex
