import LabIndex.Proofs.Change.Completeness

/-!
# Tables that the feed passes over

The feed makes no event of a change to a table that it does not know, as no document is made from
such a table. The tables that documents are made from are those that the queries name, and they are
more than the feed knows: eight tables are read by a query and passed over by the feed.

* `ChangeEvent.ignores_iff`: the feed passes over the tables without a form;
* `Store.query_congr`, `Indexers.run_congr`: a run does not see tables that its kind does not name;
* `Indexers.irrelevant_iff`: no document depends on a table exactly if no kind names it;
* `Indexers.ignores_and_not_irrelevant_iff`: the tables that the feed should not pass over.
-/

namespace LabIndex

/-! ## 1. What the feed passes over -/

namespace ChangeEvent

/-- The feed makes no event of a table, whatever its rows are before and after. -/
def Ignores (table : String) : Prop := ∀ old new : Json, ofFeed? table old new = none

/-- The tables of which the feed makes events. -/
def followed : List String := forms.map (·.table)

/-- **The feed passes over the tables without a form**, and over no other. -/
theorem ignores_iff {table : String} : Ignores table ↔ table ∉ followed := by
  constructor
  · intro h hmem
    -- every form has an event: the one of a row that has all columns which keys are taken from
    let row : Json := .obj [("datafile_id", .str "k"), ("id", .str "k"), ("item_id", .str "k"),
      ("property_set_id", .str "k"), ("sample_id", .str "k")]
    have hevents : ∀ t ∈ followed, (ofFeed? t row row).isSome := by decide
    have := hevents table hmem
    rw [h row row] at this
    cases this
  · intro h old new
    unfold ofFeed?
    split
    case h_12 => rfl
    all_goals exact absurd (by decide) h

end ChangeEvent

/-! ## 2. What a run sees -/

/-- The tables that a kind names whatever it covers are among those that it names for everything. -/
theorem Kind.mem_tables_of_mem_query (k : Kind) (scope : Scope) {t : String}
    (h : t ∈ (k.query scope).tables) : t ∈ k.tables := by
  have hone : ∀ id, (k.query (.one id)).tables = (k.query (.many [])).tables := by
    intro id
    cases k <;> rfl
  have hmany : ∀ ids, (k.query (.many ids)).tables = (k.query (.many [])).tables := by
    intro ids
    cases k <;> rfl
  have hsome : ∀ t ∈ (k.query (.many [])).tables, t ∈ k.tables := by cases k <;> decide
  cases scope with
  | all => exact h
  | one id => exact hsome t (hone id ▸ h)
  | many ids => exact hsome t (hmany ids ▸ h)

namespace Store

/-- Two stores differ in the rows of one table at most, which both have. -/
structure ReplacesTable (s s' : Store) (t : String) : Prop where
  others : ∀ u, u ≠ t → s'.rows? u = s.rows? u
  before : (s.rows? t).isSome
  after : (s'.rows? t).isSome

theorem replacesTable_withRows {s : Store} {t : String} (h : (s.rows? t).isSome)
    (rows : List Json) : s.ReplacesTable (s.withRows t rows) t where
  others u hu := by rw [rows?_withRows, if_neg hu]
  before := h
  after := by
    rw [rows?_withRows, if_pos rfl, Option.isSome_map]
    exact h

/-- **The query of a kind does not see other tables** than those of the kind. -/
theorem query_congr {s s' : Store} {k : Kind} (h : ∀ t ∈ k.tables, s'.rows? t = s.rows? t)
    (scope : Scope) : s'.query (k.query scope) = s.query (k.query scope) :=
  eval_congr _ none fun t ht => h t (k.mem_tables_of_mem_query scope ht)

end Store

namespace Indexers

variable {σ : Type}

/-- **A run does not see other tables than those of its kind**: what it reports, and what it does
    to its backend. -/
theorem run_congr {x : Indexers} {s s' : Store} {k : Kind} (hx : x.source = .ofStore s)
    (h : ∀ t ∈ k.tables, s'.rows? t = s.rows? t) (b : Backend σ) (scope : Scope) (state : σ) :
    (x.onto s').run b k scope state = x.run b k scope state := by
  refine Indexing.run_of_source b (x.indexing k scope) ?_ state
  simp only [indexing, onto, hx, Source.ofStore, Store.query_congr h]

/-- Reading everything can be seen from the run. -/
instance (x : Indexers) (b : Backend σ) (k : Kind) (scope : Scope) (state : σ) :
    Decidable (x.ReadsAll b k scope state) :=
  decidable_of_iff ((x.run b k scope state).1.toOption.map (·.cursorError) = some none) <| by
    simp [ReadsAll, Option.map_eq_some_iff, toOption_eq_some_iff]

end Indexers

/-! ## 3. Tables that no document is made from -/

/-- **No document is made from a table**: with other rows in it, any run over everything that reads
    everything before and after submits the same. -/
def Irrelevant (t : String) : Prop :=
  ∀ (s s' : Store), s.Sorted → s'.Sorted → s.ReplacesTable s' t →
    ∀ (x : Indexers), x.source = .ofStore s →
      ∀ (σ : Type) (b : Backend σ) (k : Kind) (state : σ),
        x.ReadsAll b k .all state → (x.onto s').ReadsAll b k .all state →
          (x.onto s').submitted b k .all state = x.submitted b k .all state

/-- A table that no kind names is not made into documents. -/
theorem irrelevant_of_not_mem_tables {t : String} (h : ∀ k : Kind, t ∉ k.tables) :
    Irrelevant t := by
  intro s s' _ _ hrows x hx σ b k state _ _
  have htables : ∀ u ∈ k.tables, s'.rows? u = s.rows? u := fun u hu =>
    hrows.others u fun he => h k (he ▸ hu)
  rw [Indexers.submitted, Indexers.submitted, Indexers.run_congr hx htables]

/-- The rows of some tables beside those around a file, each linked to another one. -/
def besideFile : List (String × List Json) := [
  ("users", [.obj [("id", .str "u-1")]]),
  ("tag2item", [.obj [("item_id", .str "f-1"), ("item_type", .str "datafile"),
    ("tag_id", .str "raw")]]),
  ("note2item", [.obj [("item_id", .str "f-1"), ("item_type", .str "datafile"),
    ("note_id", .str "n-1")]]),
  ("notes", [.obj [("id", .str "n-1"), ("title", .str "first pull")]]),
  ("sample2propertyset", [.obj [("property_set_id", .str "ps-1"), ("sample_id", .str "s-1")]]),
  ("propertyset2property", [.obj [("property_id", .str "a-1"), ("property_set_id", .str "ps-1")]]),
  ("properties", [.obj [("attribute", .str "hardness"), ("id", .str "a-1"),
    ("name", .str "Hardness")]]),
  ("project2process", [.obj [("process_id", .str "r-1"), ("project_id", .str "p-1")]]),
  ("processes", [.obj [("id", .str "r-1"), ("name", .str "anneal")]]),
  ("process2setup", [.obj [("process_id", .str "r-1"), ("setup_id", .str "t-1")]]),
  ("setupproperties", [.obj [("attribute", .str "oven"), ("id", .str "v-1"), ("name", .str "Oven"),
    ("setup_id", .str "t-1")]])]

/-- A store with a row in every table that documents are made from. -/
def everyTable : Store :=
  ⟨Store.aroundFile ++ [("datafiles", [Store.renamedFile false])] ++ besideFile⟩

theorem sorted_everyTable : everyTable.Sorted := by
  unfold Store.Sorted
  decide

/-- Emptying a table changes what is submitted for each kind that names it, and stops no run. -/
theorem submitted_emptied_ne : ∀ k ∈ Kind.all, ∀ t ∈ k.tables,
    (everyTable.rows? t).isSome ∧
      (Indexers.onStore everyTable).ReadsAll .accepting k .all () ∧
      (Indexers.onStore (everyTable.withRows t [])).ReadsAll .accepting k .all () ∧
      ((Indexers.onStore (everyTable.withRows t [])).submitted .accepting k .all ()).map
          (fun r => r.document.text) ≠
        ((Indexers.onStore everyTable).submitted .accepting k .all ()).map
          fun r => r.document.text := by
  decide +kernel

/-- **No document is made from a table exactly if no kind names it.** -/
theorem irrelevant_iff {t : String} : Irrelevant t ↔ ∀ k : Kind, t ∉ k.tables := by
  refine ⟨fun h k hk => ?_, irrelevant_of_not_mem_tables⟩
  obtain ⟨hrows, hread, hread', hne⟩ := submitted_emptied_ne k k.mem_all t hk
  refine hne (congrArg (List.map fun r : Request => r.document.text) ?_)
  exact h everyTable _ sorted_everyTable (sorted_everyTable.withRows t (by simp))
    (Store.replacesTable_withRows hrows []) (Indexers.onStore everyTable) rfl Unit .accepting k ()
    hread hread'

/-- Tables that a kind names and the feed passes over. -/
def unfollowed : List String := [
  "project2sample", "project2process", "datadir2datafile", "datadirs", "sample2propertyset",
  "properties", "process2setup", "setupproperties"]

theorem mem_unfollowed_iff {t : String} :
    t ∈ unfollowed ↔ t ∉ ChangeEvent.followed ∧ ∃ k : Kind, t ∈ k.tables := by
  have hnamed : ∀ k ∈ Kind.all, ∀ t ∈ k.tables, t ∉ ChangeEvent.followed → t ∈ unfollowed := by
    decide
  have hlisted : ∀ t ∈ unfollowed, t ∉ ChangeEvent.followed ∧ ∃ k ∈ Kind.all, t ∈ k.tables := by
    decide
  constructor
  · intro h
    obtain ⟨hf, k, -, hk⟩ := hlisted t h
    exact ⟨hf, k, hk⟩
  · rintro ⟨hf, k, hk⟩
    exact hnamed k k.mem_all t hk hf

/-- **The feed passes over eight tables that documents are made from**, and of all other tables
    that it passes over no document is made. -/
theorem ignores_and_not_irrelevant_iff (t : String) :
    (ChangeEvent.Ignores t ∧ ¬ Irrelevant t) ↔ t ∈ unfollowed := by
  rw [mem_unfollowed_iff, ChangeEvent.ignores_iff, irrelevant_iff]
  simp only [not_forall, not_not]

/-- The store with another name for its directory. -/
def renamedDirectory : Store :=
  everyTable.withRows "datadirs" [.obj [("id", .str "d-1"), ("name", .str "pulls")]]

/-- **A directory's new name is passed over**, although it is in the documents of its files. -/
theorem renamedDirectory_not_irrelevant :
    ChangeEvent.Ignores "datadirs" ∧ everyTable.Sorted ∧ renamedDirectory.Sorted ∧
      everyTable.ReplacesTable renamedDirectory "datadirs" ∧
      (∀ k, (Indexers.onStore everyTable).ReadsAll .accepting k .all ()) ∧
      (∀ k, ((Indexers.onStore everyTable).onto renamedDirectory).ReadsAll .accepting k .all ()) ∧
      ((Indexers.onStore everyTable).onto renamedDirectory).submitted .accepting .file .all () ≠
        (Indexers.onStore everyTable).submitted .accepting .file .all () := by
  refine ⟨ChangeEvent.ignores_iff.mpr (by decide), sorted_everyTable,
    sorted_everyTable.withRows _ (by decide), Store.replacesTable_withRows (by decide) _,
    ?_, ?_, fun h => ?_⟩
  · intro k
    cases k <;> decide +kernel
  · intro k
    cases k <;> decide +kernel
  · exact absurd (congrArg (List.map fun r : Request => r.document.text) h) (by decide +kernel)

end LabIndex
