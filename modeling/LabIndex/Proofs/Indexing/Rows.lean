import LabIndex.Proofs.Document.Ids
import LabIndex.Proofs.Indexing.Batches
import LabIndex.Proofs.Store.Evaluation

/-!
# The rows of a kind

The queries of the five kinds, as lists of rows. A kind has a table whose rows say which entities
there are, its members; each member is followed through joins to the rows that make documents; and
to each of these rows some lists are attached. A run makes one request of each row.

* `Store.members`, `Store.expand`: the members that a scope covers, and the rows of a member;
* `Store.query_eq`: the query of a kind yields these rows;
* `Indexers.readsAll_iff`, `Indexers.submitted_eq`: a run reads everything when every row makes a
  request, and hands these requests on;
* `Indexers.key_of_request?`: the request has the id that its member names.
-/

namespace LabIndex

/-! ## 1. Members and rows -/

/-- Ids that someone names are the ids of the scope. -/
theorem Scope.ids?_ofIds {ids : List String} (h : ids ≠ []) : (Scope.ofIds ids).ids? = some ids := by
  match ids, h with
  | [_], _ => rfl
  | _ :: _ :: _, _ => rfl

namespace Kind

/-- The kind is reached through a table that links its entities to projects. -/
def isLinked : Kind → Bool
  | .file | .sample | .process => true
  | .project | .user => false

/-- The table whose rows are the members of a kind. -/
def memberTable : Kind → String
  | .file => "project2datafile"
  | .sample => "project2sample"
  | .process => "project2process"
  | .project => "projects"
  | .user => "users"

/-- The column of a member that names the entity. -/
def memberColumn : Kind → String
  | .file => "datafile_id"
  | .sample => "sample_id"
  | .process => "process_id"
  | .project | .user => "id"

/-- The lists attached to the rows of a kind. -/
def attachments : Kind → List (String × Query)
  | .file => tagsAndNotes
  | .sample => propertiesAndFiles
  | .process => processSetup
  | .project | .user => []

/-- The tables that a run of a kind over everything reads. -/
def tables (k : Kind) : List String := (k.query .all).tables

section Plain

variable {k : Kind}

theorem memberColumn_of_plain (h : k.isLinked = false) : k.memberColumn = "id" := by
  cases k <;> first | rfl | cases h

theorem idColumn_of_plain (h : k.isLinked = false) : k.idColumn = "id" := by
  cases k <;> first | rfl | cases h

theorem attachments_of_plain (h : k.isLinked = false) : k.attachments = [] := by
  cases k <;> first | rfl | cases h

theorem query_of_plain (h : k.isLinked = false) (scope : Scope) :
    k.query scope = plainQuery k.memberTable scope := by
  cases k <;> first | rfl | cases h

end Plain

/-- A run over some ids follows the members of a kind through no other tables than a run over
    everything. -/
theorem mem_spine_all (k : Kind) (scope : Scope) {t : String} (h : t ∈ (k.query scope).spine) :
    t ∈ (k.query .all).spine := by
  -- which ids a scope lists does not matter to the tables
  have hone : ∀ id, (k.query (.one id)).spine = (k.query (.many [])).spine := by
    intro id
    cases k <;> rfl
  have hmany : ∀ ids, (k.query (.many ids)).spine = (k.query (.many [])).spine := by
    intro ids
    cases k <;> rfl
  have hsome : ∀ t ∈ (k.query (.many [])).spine, t ∈ (k.query .all).spine := by
    cases k <;> decide
  cases scope with
  | all => exact h
  | one id => exact hsome t (hone id ▸ h)
  | many ids => exact hsome t (hmany ids ▸ h)

/-- The tables that the members of a kind are followed through are among those of the kind. -/
theorem mem_tables_of_mem_spine (k : Kind) (scope : Scope) {t : String}
    (h : t ∈ (k.query scope).spine) : t ∈ k.tables := by
  have hall : ∀ t ∈ (k.query .all).spine, t ∈ k.tables := by cases k <;> decide
  exact hall t (k.mem_spine_all scope h)

end Kind

namespace Store

/-- The projects by their ids alone. -/
def projectIds (s : Store) : List Json := (s.table "projects").map (Row.pluck ["id"])

/-- The members of a kind that a scope covers, in the order in which they are read. -/
def members (s : Store) (k : Kind) (scope : Scope) : List Json :=
  match scope.ids? with
  | some ids => ids.flatMap fun id => withKey k.memberColumn id (s.table k.memberTable)
  | none =>
    if k.isLinked then s.projectIds.flatMap (s.joined "id" k.memberTable "project_id")
    else s.table k.memberTable

/-- The rows that a member is followed to. -/
def expand (s : Store) : Kind → Json → List Json
  | .file, m =>
    (s.joined "datafile_id" "datadir2datafile" "datafile_id" m).flatMap fun link =>
      (s.joinedWith (Row.copyField ["name"] ["path"]) "datadir_id" "datadirs" "id" link).flatMap
        (s.joined "datafile_id" "datafiles" "id")
  | .sample, m => s.joined "sample_id" "samples" "id" m
  | .process, m => s.joined "process_id" "processes" "id" m
  | .project, m | .user, m => [m]

/-- The rows of a kind that a scope covers. -/
def rowsOf (s : Store) (k : Kind) (scope : Scope) : List Json :=
  (s.members k scope).flatMap (s.expand k)

theorem members_all_of_plain {k : Kind} (h : k.isLinked = false) (s : Store) :
    s.members k .all = s.table k.memberTable := by
  simp [members, Scope.ids?, h]

theorem members_all_of_linked {k : Kind} (h : k.isLinked = true) (s : Store) :
    s.members k .all = s.projectIds.flatMap (s.joined "id" k.memberTable "project_id") := by
  simp only [members, Scope.ids?, h, if_true]

theorem expand_of_plain {k : Kind} (h : k.isLinked = false) (s : Store) (m : Json) :
    s.expand k m = [m] := by
  cases k <;> first | rfl | cases h

theorem rowsOf_of_plain {k : Kind} (h : k.isLinked = false) (s : Store) (scope : Scope) :
    s.rowsOf k scope = s.members k scope := by
  rw [rowsOf, funext (expand_of_plain h s), List.flatMap_singleton']

section Congruence

variable {s s' : Store} {k : Kind}

/-- The rows of a member depend on the tables that it is followed through. -/
theorem expand_congr
    (h : ∀ t ∈ (k.query .all).spine, t ≠ k.memberTable → s'.table t = s.table t) :
    s'.expand k = s.expand k := by
  have hjoined : ∀ t ∈ (k.query .all).spine, t ≠ k.memberTable → ∀ f field index,
      s'.joinedWith f field t index = s.joinedWith f field t index :=
    fun t ht hne f _ _ => joinedWith_congr (h t ht hne) f
  funext m
  cases k with
  | file =>
      simp only [expand, joined, hjoined "datadir2datafile" (by decide) (by decide),
        hjoined "datadirs" (by decide) (by decide), hjoined "datafiles" (by decide) (by decide)]
  | sample => simp only [expand, joined, hjoined "samples" (by decide) (by decide)]
  | process => simp only [expand, joined, hjoined "processes" (by decide) (by decide)]
  | project | user => rfl

/-- **The rows of a linked kind depend on the tables that its members are followed through.** -/
theorem rowsOf_congr (hk : k.isLinked = true)
    (h : ∀ t ∈ (k.query .all).spine, s'.rows? t = s.rows? t) :
    s'.rowsOf k .all = s.rowsOf k .all := by
  have ht : ∀ t ∈ (k.query .all).spine, s'.table t = s.table t := fun t hmem => by
    rw [table, table, h t hmem]
  have hmembers : "projects" ∈ (k.query .all).spine ∧ k.memberTable ∈ (k.query .all).spine := by
    cases k <;> first | decide | cases hk
  rw [rowsOf, rowsOf, expand_congr fun t hmem _ => ht t hmem, members_all_of_linked hk,
    members_all_of_linked hk, projectIds, projectIds, ht _ hmembers.1, joined, joined,
    joinedWith_congr (ht _ hmembers.2)]

end Congruence

/-- The store has all tables that a kind is made from. -/
def Has (s : Store) (k : Kind) : Prop := ∀ t ∈ k.tables, (s.rows? t).isSome

/-! ## 2. Queries -/

section Queries

variable {s : Store}

/-- The link rows that a scope covers. The projects are read when it covers everything. -/
theorem eval_membership {k : Kind} (hk : k.isLinked = true) (scope : Scope)
    (h : ∀ t ∈ (Kind.membership k.memberTable k.memberColumn scope).spine, (s.rows? t).isSome) :
    s.eval none (Kind.membership k.memberTable k.memberColumn scope) =
      .ok (s.members k scope) := by
  cases hs : scope.ids? with
  | some ids =>
      simp only [Kind.membership, members, hs] at h ⊢
      exact eval_getAllBy (h _ (by simp [Query.getAllBy, Query.spine])) none ids
  | none =>
      simp only [Kind.membership, members, hs, hk, if_true] at h ⊢
      have hprojects : s.eval none (.table "projects") = .ok (s.table "projects") := by
        rw [eval, rows_eq (h _ (by simp [Query.spine]))]
      exact eval_zip_eqJoin (eval_pluck hprojects ["id"]) (h _ (by simp [Query.spine]))

/-- Members with what they are joined to, one table further. -/
theorem eval_zip_eqJoinId {q : Query} {row : Option Json} {lefts : List Json}
    {field table : String} (hq : s.eval row q = .ok lefts) (h : (s.rows? table).isSome) :
    s.eval row (.zip (.eqJoinId q field table)) =
      .ok (lefts.flatMap (s.joined field table "id")) := eval_zip_eqJoin hq h

/-- Attaching lists to what a query yields. -/
theorem eval_merge {q : Query} {lefts : List Json} (hq : s.eval none q = .ok lefts)
    (fields : List (String × Query)) :
    s.eval none (.merge q fields) = lefts.mapM (s.attachAll fields) := by
  rw [eval, hq]
  rfl

theorem mapM_attachAll_nil (rows : List Json) : rows.mapM (s.attachAll []) = .ok rows := by
  rw [mapM_of_forall (g := id) fun r _ => by rw [attachAll]; rfl, List.map_id]

/-- The rows of files, table by table. -/
theorem rowsOf_file (s : Store) (scope : Scope) :
    s.rowsOf .file scope =
      (((s.members .file scope).flatMap
        (s.joined "datafile_id" "datadir2datafile" "datafile_id")).flatMap
        (s.joinedWith (Row.copyField ["name"] ["path"]) "datadir_id" "datadirs" "id")).flatMap
        (s.joined "datafile_id" "datafiles" "id") := by
  have hx : s.expand .file = fun m =>
      (s.joined "datafile_id" "datadir2datafile" "datafile_id" m).flatMap fun link =>
        (s.joinedWith (Row.copyField ["name"] ["path"]) "datadir_id" "datadirs" "id" link).flatMap
          (s.joined "datafile_id" "datafiles" "id") := rfl
  rw [rowsOf, hx]
  simp only [List.flatMap_assoc]

/-- The rows of a table that is indexed as it is. -/
theorem query_eq_plain {k : Kind} (hk : k.isLinked = false) (scope : Scope)
    (h : ∀ t ∈ (k.query scope).spine, (s.rows? t).isSome) :
    s.query (k.query scope) = (s.rowsOf k scope).mapM (s.attachAll k.attachments) := by
  rw [Kind.query_of_plain hk] at h
  rw [Kind.query_of_plain hk, Kind.attachments_of_plain hk, rowsOf_of_plain hk,
    mapM_attachAll_nil, query]
  cases hs : scope.ids? with
  | some ids =>
      simp only [Kind.plainQuery, members, hs, Kind.memberColumn_of_plain hk] at h ⊢
      exact eval_getAllBy (h _ (by simp [Query.get, Query.getAllBy, Query.spine])) none ids
  | none =>
      simp only [Kind.plainQuery, members, hs, hk] at h ⊢
      rw [eval, rows_eq (h _ (by simp [Query.spine]))]
      rfl

/-- **The query of a kind yields the rows of its members**, each with its lists, where the tables
    that it follows its members through are there. -/
theorem query_eq_of_spine {k : Kind} {scope : Scope}
    (h : ∀ t ∈ (k.query scope).spine, (s.rows? t).isSome) :
    s.query (k.query scope) = (s.rowsOf k scope).mapM (s.attachAll k.attachments) := by
  cases k with
  | file =>
      simp only [Kind.query, Kind.fileQuery, Query.spine, Query.eqJoinId, List.forall_mem_append,
        List.forall_mem_singleton] at h
      obtain ⟨⟨⟨hm, hlinks⟩, hdirs⟩, hfiles⟩ := h
      rw [rowsOf_file]
      exact eval_merge (eval_zip_eqJoinId (eval_zip_copyField_eqJoin (eval_zip_eqJoin
        (eval_membership (k := .file) rfl scope hm) hlinks) hdirs _ _) hfiles) _
  | sample =>
      simp only [Kind.query, Kind.sampleQuery, Query.spine, Query.eqJoinId,
        List.forall_mem_append, List.forall_mem_singleton] at h
      exact eval_merge (eval_zip_eqJoinId (eval_membership (k := .sample) rfl scope h.1) h.2) _
  | process =>
      simp only [Kind.query, Kind.processQuery, Query.spine, Query.eqJoinId,
        List.forall_mem_append, List.forall_mem_singleton] at h
      exact eval_merge (eval_zip_eqJoinId (eval_membership (k := .process) rfl scope h.1) h.2) _
  | project | user => exact query_eq_plain rfl scope h

theorem query_eq {k : Kind} (h : s.Has k) (scope : Scope) :
    s.query (k.query scope) = (s.rowsOf k scope).mapM (s.attachAll k.attachments) :=
  query_eq_of_spine fun t ht => h t (k.mem_tables_of_mem_spine scope ht)

/-- The query of a kind that yields something yields the rows of its members. -/
theorem query_eq_of_ok {k : Kind} {scope : Scope} {found : List Json}
    (h : s.query (k.query scope) = .ok found) :
    s.query (k.query scope) = (s.rowsOf k scope).mapM (s.attachAll k.attachments) :=
  query_eq_of_spine (isSome_of_eval h)

end Queries

end Store

/-! ## 3. Runs -/

namespace Indexing

variable (x : Indexing)

theorem fault?_eq_none_iff {rows : List Json} :
    x.fault? rows = none ↔ ∀ row ∈ rows, ∃ r, x.prepare row = .ok r := by
  induction rows with
  | nil => simp
  | cons row rest ih =>
      cases h : x.prepare row with
      | error f => simp [fault?_cons_error x h, h]
      | ok r => simp [fault?_cons_ok x h, h, ih]

/-- The requests are among those that the rows make, in their order. -/
theorem requests_sublist (rows : List Json) :
    (x.requests rows).Sublist (rows.filterMap fun row => (x.prepare row).toOption) := by
  induction rows with
  | nil => exact List.Sublist.refl []
  | cons row rest ih =>
      cases h : x.prepare row with
      | error f =>
          rw [requests_cons_error x h]
          exact List.nil_sublist _
      | ok r =>
          rw [requests_cons_ok x h, List.filterMap_cons, h]
          exact ih.cons_cons r

/-- Where no row is at fault every row makes a request. -/
theorem requests_eq_filterMap {rows : List Json} (h : x.fault? rows = none) :
    x.requests rows = rows.filterMap fun row => (x.prepare row).toOption := by
  induction rows with
  | nil => rfl
  | cons row rest ih =>
      obtain ⟨r, hr⟩ := x.fault?_eq_none_iff.mp h row List.mem_cons_self
      rw [fault?_cons_ok x hr] at h
      rw [requests_cons_ok x hr, ih h, List.filterMap_cons, hr]
      rfl

end Indexing

namespace Indexers

variable {σ : Type} (x : Indexers) (b : Backend σ) (s : Store) (k : Kind) (scope : Scope)
  (state : σ)

/-- What a run hands to its backend, in order. -/
def submitted : List Request := (x.run b.logged k scope (state, [])).2.2.flatten

/-- A run gives a report and nothing stopped its reading. -/
def ReadsAll : Prop :=
  ∃ report, (x.run b k scope state).1 = .ok report ∧ report.cursorError = none

/-- The request that a row makes once its lists are attached. -/
def request? (row : Json) : Option Request :=
  (s.attachAll k.attachments row).toOption.bind fun r => ((x.indexing k .all).prepare r).toOption

variable {x s k} in
theorem request?_eq_some_iff {row : Json} {r : Request} :
    x.request? s k row = some r ↔
      ∃ full, s.attachAll k.attachments row = .ok full ∧
        (x.indexing k .all).prepare full = .ok r := by
  simp only [request?, Option.bind_eq_some_iff, toOption_eq_some_iff]

theorem maxCount_pos : 0 < (x.indexing k scope).maxCount := by
  simp only [indexing, atLeastOne]
  omega

section Runs

variable {x b s k scope state}

theorem execute_of_query {rows : List Json} (hx : x.source = .ofStore s)
    (hq : s.query (k.query scope) = .ok rows) :
    (x.indexing k scope).source.execute (x.indexing k scope).query = .ok ⟨rows, none⟩ := by
  simp only [indexing, hx, Source.ofStore, hq]
  rfl

/-- A run over rows that were found: its report, and the batches that a log of it takes up. -/
theorem run_of_query (b : Backend σ) (state : σ) (log : List (List Request)) {rows : List Json}
    (hx : x.source = .ofStore s) (hq : s.query (k.query scope) = .ok rows) :
    ∃ report after batches, x.run b k scope state = (.ok report, after) ∧
      x.run b.logged k scope (state, log) = (.ok report, (after, log ++ batches)) ∧
      report.cursorError = (x.indexing k scope).fault? rows ∧
      batches.flatten = (x.indexing k scope).requests rows := by
  have hs := x.maxCount_pos k scope
  have he := execute_of_query hx hq
  have hrun := Indexing.run_eq b (x.indexing k scope) hs state he
  have hlogged := Indexing.run_eq b.logged (x.indexing k scope) hs (state, log) he
  simp only [submitAll_logged] at hlogged
  exact ⟨_, _, _, hrun, hlogged, Option.or_none, flatten_batchesOf _⟩

/-- Reading everything, by the query and the rows that it yields. -/
theorem readsAll_iff_query (hx : x.source = .ofStore s) :
    x.ReadsAll b k scope state ↔ ∃ rows, s.query (k.query scope) = .ok rows ∧
      (x.indexing k scope).fault? rows = none := by
  cases hq : s.query (k.query scope) with
  | error f =>
      have he : (x.run b k scope state).1 = .error f := by
        simp only [run, Indexing.run, indexing, hx, Source.ofStore, hq]
        rfl
      simp [ReadsAll, he]
  | ok rows =>
      obtain ⟨report, after, batches, hr, -, hf, -⟩ := run_of_query b state [] hx hq
      simp [ReadsAll, hr, hf]

/-- **A run reads everything when every row makes a request**, if the tables that it follows its
    members through are there. -/
theorem readsAll_iff_of_spine (hx : x.source = .ofStore s)
    (h : ∀ t ∈ (k.query scope).spine, (s.rows? t).isSome) :
    x.ReadsAll b k scope state ↔ ∀ row ∈ s.rowsOf k scope, ∃ r, x.request? s k row = some r := by
  simp only [readsAll_iff_query hx, s.query_eq_of_spine h, Indexing.fault?_eq_none_iff,
    request?_eq_some_iff]
  constructor
  · rintro ⟨rows, hq, hp⟩ row hrow
    obtain ⟨full, hfull⟩ := exists_mapM_eq_ok_iff.mp ⟨rows, hq⟩ row hrow
    obtain ⟨r, hr⟩ := hp full ((mem_iff_of_mapM hq).mpr ⟨row, hrow, hfull⟩)
    exact ⟨r, full, hfull, hr⟩
  · intro hall
    obtain ⟨rows, hq⟩ := exists_mapM_eq_ok_iff.mpr fun row hrow =>
      (hall row hrow).elim fun _ ⟨full, hfull, _⟩ => ⟨full, hfull⟩
    refine ⟨rows, hq, fun full hfull => ?_⟩
    obtain ⟨row, hrow, hrow'⟩ := (mem_iff_of_mapM hq).mp hfull
    obtain ⟨r, full', hfull', hr⟩ := hall row hrow
    rw [hrow'] at hfull'
    exact ⟨r, Except.ok.inj hfull' ▸ hr⟩

theorem readsAll_iff (hx : x.source = .ofStore s) (h : s.Has k) :
    x.ReadsAll b k scope state ↔ ∀ row ∈ s.rowsOf k scope, ∃ r, x.request? s k row = some r :=
  readsAll_iff_of_spine hx fun t ht => h t (k.mem_tables_of_mem_spine scope ht)

/-- The tables of a run that reads everything are there. -/
theorem isSome_of_readsAll (hx : x.source = .ofStore s) (hr : x.ReadsAll b k scope state) :
    ∀ t ∈ (k.query scope).spine, (s.rows? t).isSome := by
  obtain ⟨rows, hq, -⟩ := (readsAll_iff_query hx).mp hr
  exact Store.isSome_of_eval hq

/-- **A run that reads everything** hands over one request for each row, in the order of the
    rows. -/
theorem run_of_readsAll (hx : x.source = .ofStore s)
    (hr : x.ReadsAll b k scope state) (log : List (List Request)) :
    ∃ report after batches,
      x.run b.logged k scope (state, log) = (.ok report, (after, log ++ batches)) ∧
      report.cursorError = none ∧
      batches.flatten = (s.rowsOf k scope).filterMap (x.request? s k) := by
  obtain ⟨rows, hq, hf⟩ := (readsAll_iff_query hx).mp hr
  obtain ⟨report, after, batches, -, hrun, hc, hb⟩ := run_of_query b state log hx hq
  refine ⟨report, after, batches, hrun, hc.trans hf, ?_⟩
  rw [hb, Indexing.requests_eq_filterMap _ hf,
    eq_filterMap_of_mapM ((s.query_eq_of_ok hq).symm.trans hq), List.filterMap_filterMap]
  rfl

theorem submitted_eq (hx : x.source = .ofStore s) (hr : x.ReadsAll b k scope state) :
    x.submitted b k scope state = (s.rowsOf k scope).filterMap (x.request? s k) := by
  obtain ⟨report, after, batches, hrun, -, hb⟩ := run_of_readsAll hx hr []
  rw [submitted, hrun, ← hb]
  rfl

end Runs

end Indexers

/-! ## 4. Ids -/

namespace Store

/-- The tables that members are joined to do not bring the column by which an entity is named. -/
structure KeepsIds (s : Store) : Prop where
  sample : ∀ row ∈ s.table "samples", row.get? "sample_id" = none
  process : ∀ row ∈ s.table "processes", row.get? "process_id" = none
  directory : ∀ row ∈ s.table "datadirs", row.get? "datafile_id" = none

/-- The same for the tables that the members of one kind are joined to. -/
def KeepsId (s : Store) : Kind → Prop
  | .file => ∀ row ∈ s.table "datadirs", row.get? "datafile_id" = none
  | .sample => ∀ row ∈ s.table "samples", row.get? "sample_id" = none
  | .process => ∀ row ∈ s.table "processes", row.get? "process_id" = none
  | .project | .user => True

theorem KeepsIds.keepsId {s : Store} (h : s.KeepsIds) : ∀ k, s.KeepsId k
  | .file => h.directory
  | .sample => h.sample
  | .process => h.process
  | .project | .user => trivial

section Ids

variable {s : Store} {k : Kind} {m row : Json}

/-- The rows of a linked member are objects. -/
theorem exists_obj_of_mem_expand (h : row ∈ s.expand k m) :
    (∃ fs, row = .obj fs) ∨ (k.isLinked = false ∧ row = m) := by
  have hjoined : ∀ {field table index : String} {left : Json},
      row ∈ s.joined field table index left → ∃ fs, row = .obj fs := by
    intro field table index left hr
    obtain ⟨key, hl, right, -, -, rfl⟩ := exists_of_mem_joinedWith hr
    obtain ⟨l, rfl, -⟩ := Json.exists_obj_of_key hl
    cases right <;> exact ⟨_, rfl⟩
  cases k with
  | file =>
      obtain ⟨linkRow, -, h⟩ := List.mem_flatMap.mp h
      obtain ⟨dirRow, -, h⟩ := List.mem_flatMap.mp h
      exact .inl (hjoined h)
  | sample => exact .inl (hjoined h)
  | process => exact .inl (hjoined h)
  | project | user => exact .inr ⟨rfl, List.mem_singleton.mp h⟩

/-- On its way to a file a member keeps the file that it names: the link to a directory has it, and
    the directory brings none. -/
theorem key_of_mem_directories (hs : s.Sorted) (hi : s.KeepsId .file) {link dir : Json}
    (hlink : link ∈ s.joined "datafile_id" "datadir2datafile" "datafile_id" m)
    (hdir : dir ∈ s.joinedWith (Row.copyField ["name"] ["path"]) "datadir_id" "datadirs" "id"
      link) : dir.key "datafile_id" = m.key "datafile_id" := by
  have hlinkKey : link.key "datafile_id" = m.key "datafile_id" := by
    obtain ⟨l, r, key, rfl, -, hl, hr, ho, rfl⟩ := exists_fields_of_mem_joined hs hlink
    rw [Row.key_overlaid_of_right ho hr, hl]
  rw [← hlinkKey]
  obtain ⟨l, r, r', key, rfl, hmem, -, -, ho, hc, rfl⟩ :=
    exists_fields_of_mem_joinedWith (Row.changesOnly_copyField "name" "path") hs hdir
  exact Row.key_overlaid_of_none ho ((hc _ (by decide)).trans (hi _ hmem))

/-- **The rows of a member carry the id that the member names.** -/
theorem key_of_mem_expand (hs : s.Sorted) (hi : s.KeepsId k) (h : row ∈ s.expand k m) :
    row.key k.idColumn = m.key k.memberColumn := by
  cases k with
  | file =>
      obtain ⟨link, hlink, h⟩ := List.mem_flatMap.mp h
      obtain ⟨dir, hdir, hfile⟩ := List.mem_flatMap.mp h
      obtain ⟨l, r, key, rfl, -, hl, hr, ho, rfl⟩ := exists_fields_of_mem_joined hs hfile
      exact (Row.key_overlaid_of_right ho hr).trans
        (hl.symm.trans (key_of_mem_directories hs hi hlink hdir))
  | sample =>
      obtain ⟨l, r, key, rfl, hmem, -, -, ho, rfl⟩ := exists_fields_of_mem_joined hs h
      exact Row.key_overlaid_of_none ho (hi _ hmem)
  | process =>
      obtain ⟨l, r, key, rfl, hmem, -, -, ho, rfl⟩ := exists_fields_of_mem_joined hs h
      exact Row.key_overlaid_of_none ho (hi _ hmem)
  | project | user =>
      rw [List.mem_singleton.mp h]
      rfl

/-- **A linked member's rows do not depend on an id that the member has of its own.** -/
theorem blind_expand (hs : s.Sorted) (hk : k.isLinked = true) : Row.Blind "id" (s.expand k) := by
  cases k with
  | file =>
      have hfile : Row.Blind "id" (s.joined "datafile_id" "datafiles" "id") :=
        blind_joined hs (by decide)
      exact blind_flatMap (Row.changesOnly_id "id") hs (by decide)
        (blind_flatMap (Row.changesOnly_copyField "name" "path") hs (by decide) hfile)
  | sample => exact blind_joined hs (by decide)
  | process => exact blind_joined hs (by decide)
  | project => cases hk
  | user => cases hk

end Ids

end Store

namespace Indexers

variable {x : Indexers} {s : Store} {k : Kind} {m row : Json} {r : Request}

/-- The document of a request that a row makes, and the row with its lists. -/
theorem exists_document_of_request? (h : x.request? s k row = some r) :
    ∃ full d, s.attachAll k.attachments row = .ok full ∧ Document.read k full = .ok d ∧
      r = ⟨x.settings.indexName, k, d.id, (d.withContents x.extractor).toJson⟩ := by
  obtain ⟨full, hfull, hr⟩ := request?_eq_some_iff.mp h
  rw [Indexing.prepare] at hr
  cases hd : Document.read (x.indexing k .all).kind full with
  | error e => rw [hd] at hr; cases hr
  | ok d =>
      rw [hd] at hr
      refine ⟨full, d, hfull, hd, ?_⟩
      rw [← Except.ok.inj hr]
      simp only [indexing, Document.id_withContents]

/-- The id that a row of an object makes a request with is its own. -/
theorem key_of_request?_obj {fs : Fields} (h : x.request? s k (.obj fs) = some r) :
    (Json.obj fs).key k.idColumn = some r.id := by
  obtain ⟨full, d, hfull, hd, rfl⟩ := exists_document_of_request? h
  obtain ⟨fs', rfl, hfs'⟩ := Store.get?_of_attachAll hfull
  have hc : k.idColumn ∉ k.attachments.map (·.1) := by cases k <;> decide
  exact Json.key_eq_of_text ((hfs' _ hc).symm.trans (Document.id_of_read hd))

/-- **A request has the id that its member names.** -/
theorem key_of_request? (hs : s.Sorted) (hi : s.KeepsId k)
    (hm : k.isLinked = false → ∀ items, m ≠ .arr items) (hrow : row ∈ s.expand k m)
    (h : x.request? s k row = some r) : m.key k.memberColumn = some r.id := by
  rw [← Store.key_of_mem_expand hs hi hrow]
  rcases Store.exists_obj_of_mem_expand hrow with ⟨fs, rfl⟩ | ⟨hk, rfl⟩
  · exact key_of_request?_obj h
  · -- nothing is attached here, and only an object or a list can be read
    obtain ⟨full, d, hfull, hd, -⟩ := exists_document_of_request? h
    rw [Kind.attachments_of_plain hk, Store.attachAll] at hfull
    cases hfull
    rcases Document.exists_obj_or_arr_of_read hd with ⟨fs, rfl⟩ | ⟨items, rfl⟩
    · exact key_of_request?_obj h
    · exact absurd rfl (hm hk items)

end Indexers

end LabIndex
