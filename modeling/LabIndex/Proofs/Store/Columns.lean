import LabIndex.Proofs.Document.Reading
import LabIndex.Proofs.Store.Evaluation

/-!
# Queries on rows without a column

A column that no lookup, join or projection of a query names is carried along unseen: a store whose
rows have lost it yields the same rows, each without it. Rows that get lists attached get lists of
such rows.

* `Store.without`: a store without a column;
* `Query.Unseen`: the chains of joins that do not see a column;
* `Store.eval_leads`: what they yield without it;
* `Store.attachAll_leads`: rows with lists.
-/

namespace LabIndex

/-! ## 1. Rows -/

namespace Json

variable {column : String}

/-- The columns of a row, if it has any, are in order. -/
def InOrder (v : Json) : Prop := ∀ fs : Fields, v = .obj fs → Fields.Ordered fs

theorem inOrder_obj {fs : Fields} (h : Fields.Ordered fs) : (obj fs).InOrder := by
  rintro _ ⟨⟩
  exact h

theorem InOrder.of_sorted {v : Json} (h : v.Sorted) : v.InOrder := by
  rintro fs rfl
  exact Fields.ordered_of_sorted h

/-- A projection does not see a column that it does not name. -/
theorem pluck_without {fields : List String} (h : column ∉ fields) (v : Json) :
    Row.pluck fields (v.without column) = Row.pluck fields v := by
  cases v with
  | obj fs =>
      rw [without, Row.pluck, Row.pluck]
      congr 1
      refine List.foldl_ext _ _ _ fun acc f hf => ?_
      have hne : f ≠ column := fun e => h (e ▸ hf)
      rw [Fields.get?_erase_of_ne hne]
  | _ => rfl

/-- The columns that a projection keeps are in order, and others are not among them. -/
theorem exists_pluck_obj {fields : List String} (h : column ∉ fields) (fs : Fields) :
    ∃ kept, Row.pluck fields (obj fs) = .obj kept ∧ Fields.Ordered kept ∧
      Fields.get? column kept = none := by
  refine ⟨_, rfl, List.foldlRecOn (motive := fun acc => Fields.Ordered acc ∧
    Fields.get? column acc = none) fields _ ⟨Fields.ordered_nil, rfl⟩ ?_⟩
  rintro acc ⟨ho, hn⟩ f hf
  have hne : column ≠ f := fun e => h (e ▸ hf)
  split
  · exact ⟨Fields.ordered_put ho _ _, (Fields.get?_put_of_ne hne _ _).trans hn⟩
  · exact ⟨ho, hn⟩

/-- What it keeps of a row is in order and does not have that column. -/
theorem without_pluck {fields : List String} (h : column ∉ fields) (v : Json) :
    (Row.pluck fields v).without column = Row.pluck fields v ∧ (Row.pluck fields v).InOrder := by
  cases v with
  | obj fs =>
      obtain ⟨kept, hkept, ho, hn⟩ := exists_pluck_obj h fs
      rw [hkept]
      refine ⟨congrArg Json.obj ?_, inOrder_obj ho⟩
      refine Fields.ext (Fields.ordered_erase ho column) ho fun c => ?_
      rw [Fields.get?_erase]
      split
      · rename_i hc
        rw [hc]
        exact hn.symm
      · rfl
  | _ => exact ⟨rfl, fun _ e => by cases e⟩

/-- **Rows are laid over each other without a column** as with it. -/
theorem overlaid_without {left : Json} (hl : left.InOrder) {r : Fields} (hr : Fields.Ordered r) :
    Row.overlaid (left.without column) (.obj (Fields.erase column r)) =
      (Row.overlaid left (.obj r)).without column := by
  cases left with
  | obj l => simp only [without, Row.overlaid_obj, Fields.erase_overlay (hl l rfl) hr]
  | _ => rfl

theorem InOrder.overlaid {left : Json} (hl : left.InOrder) (right : Json) :
    (Row.overlaid left right).InOrder := by
  intro fs hfs
  cases left with
  | obj l =>
      cases right with
      | obj r =>
          cases hfs
          exact Fields.ordered_overlay (hl l rfl) r
      | _ => exact hl fs hfs
  | _ => cases right <;> cases hfs

end Json

/-- A change to rows keeps their columns in order, and does not see one of them. -/
def Row.Passes (column : String) (f : Json → Json) : Prop :=
  ∀ r : Fields, Fields.Ordered r → ∃ r', f (.obj r) = .obj r' ∧ Fields.Ordered r' ∧
    f (.obj (Fields.erase column r)) = .obj (Fields.erase column r')

theorem Row.passes_id (column : String) : Passes column id := fun r hr => ⟨r, rfl, hr, rfl⟩

theorem Row.passes_copyField {column origin target : String} (ho : origin ≠ column)
    (ht : target ≠ column) : Passes column (copyField [origin] [target]) := by
  intro r hr
  rw [copyField_obj, copyField_obj, Fields.get?_erase_of_ne ho]
  cases Fields.get? origin r with
  | none => exact ⟨r, rfl, hr, rfl⟩
  | some v => exact ⟨_, rfl, Fields.ordered_put hr target v, by rw [Fields.erase_put_of_ne ht hr]⟩

/-! ## 2. Stores -/

namespace Store

variable {s : Store} {column : String}

/-- A store whose rows have lost a column. -/
def without (s : Store) (column : String) : Store :=
  ⟨s.tables.map fun t => (t.1, t.2.map (Json.without column))⟩

theorem rows?_without (s : Store) (column t : String) :
    (s.without column).rows? t = (s.rows? t).map (List.map (Json.without column)) := by
  simp only [rows?, without, List.find?_map, Function.comp_def]
  cases s.tables.find? (·.1 == t) <;> rfl

theorem table_without (s : Store) (column t : String) :
    (s.without column).table t = (s.table t).map (Json.without column) := by
  rw [table, table, rows?_without]
  cases s.rows? t <;> rfl

theorem isSome_rows?_without {t : String} (h : (s.rows? t).isSome) :
    ((s.without column).rows? t).isSome := by
  rw [rows?_without, Option.isSome_map]
  exact h

/-- A lookup by another column. -/
theorem withKey_without {index : String} (h : index ≠ column) (key : String) (rows : List Json) :
    withKey index key (rows.map (Json.without column)) =
      (withKey index key rows).map (Json.without column) := by
  rw [withKey, withKey, List.filter_map]
  congr 1
  refine List.filter_congr fun r _ => ?_
  rw [Function.comp_apply, Json.key_without h]

/-- **A join by other columns.** -/
theorem joinedWith_without (hs : s.Sorted) {f : Json → Json} (hf : Row.Passes column f)
    {field table index : String} (hfield : field ≠ column) (hindex : index ≠ column) {left : Json}
    (hl : left.InOrder) :
    (s.without column).joinedWith f field table index (left.without column) =
      (s.joinedWith f field table index left).map (Json.without column) := by
  rw [joinedWith, joinedWith, Json.key_without hfield]
  cases left.key field with
  | none => rfl
  | some key =>
      simp only [table_without, withKey_without hindex, List.map_map]
      refine List.map_congr_left fun right hr => ?_
      obtain ⟨hmem, hkey⟩ := mem_withKey.mp hr
      obtain ⟨r, rfl, -⟩ := Json.exists_obj_of_key hkey
      obtain ⟨r', hr', ho, hwithout⟩ := hf r (Fields.ordered_of_sorted (hs.of_mem_table hmem))
      simp only [Function.comp_apply, hr', Json.without] at hwithout ⊢
      rw [hwithout]
      exact Json.overlaid_without hl ho

theorem inOrder_of_mem_joinedWith {f : Json → Json} {field table index : String} {left r : Json}
    (hl : left.InOrder) (h : r ∈ s.joinedWith f field table index left) : r.InOrder := by
  obtain ⟨-, -, right, -, -, rfl⟩ := exists_of_mem_joinedWith h
  exact hl.overlaid _

end Store

/-! ## 3. Chains of joins -/

/-- **A query is a chain of joins that does not see a column**, and of an enclosing row sees no
    other columns than some. -/
inductive Query.Unseen (column : String) (sees : List String) : Query → Prop where
  | table (name : String) : Unseen column sees (.table name)
  | getAllBy {index : String} (table : String) (ids : List String) (hindex : index ≠ column) :
      Unseen column sees (.getAllBy table index ids)
  | related {index field : String} (table : String) (hindex : index ≠ column)
      (hfield : field ∈ sees) : Unseen column sees (.related table index field)
  | pluck {source : Query} {fields : List String} (h : Unseen column sees source)
      (hfields : column ∉ fields) : Unseen column sees (.pluck source fields)
  | join {source : Query} {field index : String} (table : String) (h : Unseen column sees source)
      (hfield : field ≠ column) (hindex : index ≠ column) :
      Unseen column sees (.zip (.eqJoin source field table index))
  | joinCopied {source : Query} {field index origin target : String} (table : String)
      (h : Unseen column sees source) (hfield : field ≠ column) (hindex : index ≠ column)
      (horigin : origin ≠ column) (htarget : target ≠ column) :
      Unseen column sees (.zip (.copyField (.eqJoin source field table index)
        ["right", origin] ["right", target]))

namespace Store

variable {s : Store} {column : String} {sees : List String}

/-- Rows that are in order, and the same rows without a column. -/
def Loses (column : String) (rows rows' : List Json) : Prop :=
  rows' = rows.map (Json.without column) ∧ ∀ r ∈ rows, r.InOrder

theorem loses_withKey (hs : s.Sorted) {index : String} (h : index ≠ column) (t key : String) :
    Loses column (withKey index key (s.table t)) (withKey index key ((s.without column).table t)) := by
  rw [table_without, withKey_without h]
  exact ⟨rfl, fun r hr => .of_sorted (hs.of_mem_table (mem_withKey.mp hr).1)⟩

theorem Loses.flatMap_joinedWith (hs : s.Sorted) {f : Json → Json} (hf : Row.Passes column f)
    {field index : String} (hfield : field ≠ column) (hindex : index ≠ column) (t : String)
    {rows rows' : List Json} (h : Loses column rows rows') :
    Loses column (rows.flatMap (s.joinedWith f field t index))
      (rows'.flatMap ((s.without column).joinedWith f field t index)) := by
  obtain ⟨rfl, ho⟩ := h
  constructor
  · rw [List.flatMap_map, List.map_flatMap]
    exact List.flatMap_congr fun r hr => joinedWith_without hs hf hfield hindex (ho r hr)
  · intro r hr
    obtain ⟨left, hleft, hr⟩ := List.mem_flatMap.mp hr
    exact inOrder_of_mem_joinedWith (ho left hleft) hr

/-- **A chain of joins yields the same rows without a column that it does not see**, where the
    enclosing rows have the same keys in the columns that it sees. -/
theorem eval_leads (hs : s.Sorted) {q : Query} (hq : q.Unseen column sees) {row row' : Option Json}
    (hrow : ∀ f ∈ sees, row'.bind (·.key f) = row.bind (·.key f)) :
    Leads (Loses column) (s.eval row q) ((s.without column).eval row' q) := by
  induction hq with
  | table name =>
      intro found h
      have ht := isSome_of_eval h name (by simp [Query.spine])
      rw [eval, rows_eq ht] at h
      rw [eval, rows_eq (isSome_rows?_without ht), ← Except.ok.inj h, table_without]
      exact ⟨_, rfl, rfl, fun r hr => .of_sorted (hs.of_mem_table hr)⟩
  | getAllBy table ids hindex =>
      intro found h
      have ht := isSome_of_eval h table (by simp [Query.getAllBy, Query.spine])
      rw [eval_getAllBy ht] at h
      rw [eval_getAllBy (isSome_rows?_without ht), ← Except.ok.inj h]
      refine ⟨_, rfl, ?_, fun r hr => ?_⟩
      · rw [List.map_flatMap]
        exact List.flatMap_congr fun id _ => (loses_withKey hs hindex table id).1
      · obtain ⟨id, -, hr⟩ := List.mem_flatMap.mp hr
        exact (loses_withKey hs hindex table id).2 r hr
  | @related index field table hindex hfield =>
      intro found h
      have ht := isSome_of_eval h table (by simp [Query.related, Query.spine])
      -- a lookup that yields something has found its key in the enclosing row
      cases hk : row.bind (·.key field) with
      | none => simp [Query.related, eval, rows_eq ht, resolveKey, hk, bind, Except.bind] at h
      | some key =>
          obtain ⟨left, rfl, hleft⟩ := Option.bind_eq_some_iff.mp hk
          obtain ⟨left', rfl, hleft'⟩ :=
            Option.bind_eq_some_iff.mp ((hrow field hfield).trans hk)
          rw [eval_related ht hleft] at h
          rw [eval_related (isSome_rows?_without ht) hleft', ← Except.ok.inj h]
          exact ⟨_, rfl, loses_withKey hs hindex table key⟩
  | pluck h hfields ih =>
      rw [eval, eval]
      refine ih.bind fun found found' hloses => leads_ok ⟨?_, fun r hr => ?_⟩
      · obtain ⟨rfl, -⟩ := hloses
        rw [List.map_map, List.map_map]
        refine List.map_congr_left fun r _ => ?_
        rw [Function.comp_apply, Function.comp_apply, Json.pluck_without hfields,
          (Json.without_pluck hfields r).1]
      · obtain ⟨v, -, rfl⟩ := List.mem_map.mp hr
        exact (Json.without_pluck hfields v).2
  | @join source field index table h hfield hindex ih =>
      intro found hfound
      have ht := isSome_of_eval hfound table (by simp [Query.spine])
      cases hlefts : s.eval row source with
      | error e => simp [eval, hlefts, bind, Except.bind] at hfound
      | ok lefts =>
          obtain ⟨lefts', hlefts', hloses⟩ := ih lefts hlefts
          rw [eval_zip_eqJoin hlefts ht] at hfound
          rw [eval_zip_eqJoin hlefts' (isSome_rows?_without ht), ← Except.ok.inj hfound]
          exact ⟨_, rfl, hloses.flatMap_joinedWith hs (Row.passes_id column) hfield hindex table⟩
  | @joinCopied source field index origin target table h hfield hindex horigin htarget ih =>
      intro found hfound
      have ht := isSome_of_eval hfound table (by simp [Query.spine])
      cases hlefts : s.eval row source with
      | error e => simp [eval, hlefts, bind, Except.bind] at hfound
      | ok lefts =>
          obtain ⟨lefts', hlefts', hloses⟩ := ih lefts hlefts
          rw [eval_zip_copyField_eqJoin hlefts ht] at hfound
          rw [eval_zip_copyField_eqJoin hlefts' (isSome_rows?_without ht), ← Except.ok.inj hfound]
          exact ⟨_, rfl, hloses.flatMap_joinedWith hs (Row.passes_copyField horigin htarget)
            hfield hindex table⟩

/-! ## 4. Attached lists -/

end Store

/-- A list that is put in, and the same list of rows without the column. -/
theorem Json.Sheds.put {column : String} {lists : List String} {fs fs' : Fields}
    (h : Sheds column lists fs fs') {name : String} (hname : name ≠ column) (items : List Json) :
    Sheds column (lists ++ [name]) (fs.put name (.arr items))
      (fs'.put name (.arr (items.map (without column)))) where
  ordered := Fields.ordered_put h.ordered _ _
  ordered' := Fields.ordered_put h.ordered' _ _
  gone := by rw [Fields.get?_put_of_ne (Ne.symm hname), h.gone]
  others c hc hl := by
    rw [List.mem_append, List.mem_singleton, not_or] at hl
    rw [Fields.get?_put_of_ne hl.2, Fields.get?_put_of_ne hl.2, h.others c hc hl.1]
  inLists c hc := by
    by_cases he : c = name
    · subst he
      exact ⟨items, Fields.get?_put_self .., Fields.get?_put_self ..⟩
    · rw [List.mem_append, List.mem_singleton, or_iff_left he] at hc
      rw [Fields.get?_put_of_ne he, Fields.get?_put_of_ne he]
      exact h.inLists c hc

namespace Store

variable {s : Store} {column : String} {sees : List String}

/-- **A row that has lost a column gets lists of rows that have lost it**, where the attached
    queries do not see the column, and of the row see nothing that they attach themselves. -/
theorem attachAll_leads (hs : s.Sorted) {fields : List (String × Query)}
    (hfields : ∀ f ∈ fields, f.1 ≠ column ∧ f.1 ∉ sees ∧ f.2.Unseen column sees)
    (hcolumn : column ∉ sees) {lists : List String} (hlists : ∀ c ∈ sees, c ∉ lists)
    {fs fs' : Fields} (h : Json.Sheds column lists fs fs') :
    Leads (fun full full' => ∃ gs gs', full = .obj gs ∧ full' = .obj gs' ∧
        Json.Sheds column (lists ++ fields.map (·.1)) gs gs')
      (s.attachAll fields (.obj fs)) ((s.without column).attachAll fields (.obj fs')) := by
  induction fields generalizing lists fs fs' with
  | nil =>
      rw [attachAll, attachAll, List.map_nil, List.append_nil]
      exact leads_ok ⟨fs, fs', rfl, rfl, h⟩
  | cons f rest ih =>
      obtain ⟨name, query⟩ := f
      rw [List.forall_mem_cons] at hfields
      obtain ⟨⟨hname, hsees, hquery⟩, hrest⟩ := hfields
      have hkeys : ∀ c ∈ sees, (some (Json.obj fs')).bind (·.key c) =
          (some (Json.obj fs)).bind (·.key c) := by
        intro c hc
        have hne : c ≠ column := fun e => hcolumn (e ▸ hc)
        simp only [Option.bind_some, Json.key, Json.get?, h.others c hne (hlists c hc)]
      rw [attachAll, attachAll]
      refine (eval_leads hs hquery hkeys).bind fun nested nested' hloses => ?_
      obtain ⟨rfl, -⟩ := hloses
      rw [List.map_cons, ← List.singleton_append, ← List.append_assoc]
      refine ih hrest (fun c hc hmem => ?_) (h.put hname nested)
      rcases List.mem_append.mp hmem with hmem | hmem
      · exact hlists c hc hmem
      · rw [List.mem_singleton.mp hmem] at hc
        exact hsees hc

end Store

end LabIndex
