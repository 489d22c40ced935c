import LabIndex.Proofs.Change.Following
import LabIndex.Proofs.Indexing.Scopes
import LabIndex.Proofs.Indexing.Taken
import LabIndex.Proofs.Store.Failures

/-!
# Rows that make no documents

A row that makes no document stops the reading of a run and is named in its report; the documents
before it have gone out by then, in the same batches as if there had been nothing more. A query that
fails is another matter: nothing has gone out, and there is no report. It fails where a table is
missing, and where a row to which lists are attached does not say which entity it is of. The link that
led to the row says so, and the row can take that back only by a null of its own.

* `Store.query_eq_error`: where the query of a kind fails;
* `Store.Unnamed`: a row takes back the name that it was reached by, and `Store.unnamed_iff`;
* `Indexing.exists_readsUpTo`: a run in which a row makes no document, and one that ends before it;
* `Indexers.run_malformed`: all outcomes of a run, and `Indexers.run_nullNamed`: one row that makes no
  document fails a run as a whole.
-/

namespace LabIndex

/-! ## 1. Queries that fail -/

namespace Kind

/-- The lists of a kind go by the column in which its documents have their ids. -/
theorem goesBy_attachments (k : Kind) : ∀ e ∈ k.attachments, e.2.GoesBy k.idColumn := by
  have hrelated : ∀ name index column : String, (Query.related name index column).Joining :=
    fun name index column => .getAll name index [.row column]
  cases k with
  | file =>
      simp only [attachments, tagsAndNotes, List.forall_mem_cons]
      exact ⟨⟨.pluck (hrelated ..) _, _, _, rfl⟩, ⟨.join (hrelated ..) .., _, _, rfl⟩, nofun⟩
  | sample =>
      simp only [attachments, propertiesAndFiles, List.forall_mem_cons]
      exact ⟨⟨.pluck (.join (.join (hrelated ..) ..) ..) _, _, _, rfl⟩,
        ⟨.join (hrelated ..) .., _, _, rfl⟩, nofun⟩
  | process =>
      simp only [attachments, processSetup, List.forall_mem_cons]
      exact ⟨⟨.join (hrelated ..) .., _, _, rfl⟩, nofun⟩
  | project | user => exact nofun

/-- No list hides that column. -/
theorem idColumn_not_mem (k : Kind) : k.idColumn ∉ k.attachments.map (·.1) := by
  cases k <;> decide

/-- What is looked up by ids that someone names needs no enclosing row. -/
theorem joining_getAllBy (table index : String) (ids : List String) :
    (Query.getAllBy table index ids).Joining ∧ (Query.getAllBy table index ids).Closed := by
  refine ⟨.getAll _ _ _, fun name index' keys h field hmem => ?_⟩
  cases h
  obtain ⟨id, -, hid⟩ := List.mem_map.mp hmem
  cases hid

theorem joining_membership (table column : String) (scope : Scope) :
    (membership table column scope).Joining ∧ (membership table column scope).Closed := by
  rw [membership]
  cases scope.ids? with
  | none =>
      refine ⟨.join (.pluck (.table _) _) .., fun name index keys h => ?_⟩
      cases h
  | some ids => exact joining_getAllBy table column ids

theorem joining_plainQuery (table : String) (scope : Scope) :
    (plainQuery table scope).Joining ∧ (plainQuery table scope).Closed := by
  rw [plainQuery]
  cases scope.ids? with
  | none =>
      refine ⟨.table _, fun name index keys h => ?_⟩
      cases h
  | some ids => exact joining_getAllBy table "id" ids

/-- **The query of a kind is a joining one**, with lists attached if the kind has some. -/
theorem exists_joining (k : Kind) (scope : Scope) : ∃ q : Query, q.Joining ∧ q.Closed ∧
    (k.query scope = .merge q k.attachments ∨ k.query scope = q) := by
  cases k with
  | file =>
      obtain ⟨hjoining, hclosed⟩ := joining_membership "project2datafile" "datafile_id" scope
      exact ⟨_, .join (.copying (.join hjoining ..) ..) .., hclosed, .inl rfl⟩
  | sample =>
      obtain ⟨hjoining, hclosed⟩ := joining_membership "project2sample" "sample_id" scope
      exact ⟨_, .join hjoining .., hclosed, .inl rfl⟩
  | process =>
      obtain ⟨hjoining, hclosed⟩ := joining_membership "project2process" "process_id" scope
      exact ⟨_, .join hjoining .., hclosed, .inl rfl⟩
  | project | user =>
      obtain ⟨hjoining, hclosed⟩ := joining_plainQuery _ scope
      exact ⟨_, hjoining, hclosed, .inr rfl⟩

/-- The tables of the lists are among those of the query. -/
theorem mem_tables_of_attached {k : Kind} (scope : Scope) {t : String}
    (h : t ∈ Query.fieldTables k.attachments) : t ∈ (k.query scope).tables := by
  cases k with
  | file | sample | process => exact List.mem_append_right _ h
  | project | user => cases h

end Kind

namespace Store

variable {s : Store} {k : Kind} {scope : Scope} {f : Failure}

/-- **The query of a kind fails at a missing table, or at a row that does not say which entity it is
    of** where lists are to be attached to it. -/
theorem query_eq_error (h : s.query (k.query scope) = .error f) :
    (∃ name ∈ (k.query scope).tables, s.rows? name = none ∧ f = .missingTable name) ∨
      ∃ row ∈ s.rowsOf k scope, row.key k.idColumn = none ∧ k.attachments ≠ [] ∧
        f = .missingField k.idColumn := by
  obtain ⟨q, hjoining, hclosed, hquery⟩ := k.exists_joining scope
  have hspine : (k.query scope).spine = q.spine := by
    rcases hquery with hquery | hquery
    · rw [hquery, Query.spine]
    · rw [hquery]
  have hsource : s.eval none q = .error f →
      ∃ name ∈ (k.query scope).tables, s.rows? name = none ∧ f = .missingTable name := by
    intro hfail
    obtain ⟨name, hname, hmissing⟩ := eval_eq_error_of_closed hjoining hclosed hfail
    exact ⟨name, Query.mem_tables_of_mem_spine (hspine ▸ hname), hmissing⟩
  rcases hquery with hquery | hquery
  · have hmerge := h
    rw [query, hquery, eval] at hmerge
    rcases bind_eq_error_iff.mp hmerge with hfail | ⟨lefts, hlefts, -⟩
    · exact .inl (hsource hfail)
    · -- the rows were found, so attaching lists to one of them is what fails
      rw [query_eq_of_spine (hspine ▸ isSome_of_eval hlefts)] at h
      obtain ⟨row, hrow, hfail⟩ := exists_mem_of_mapM_eq_error h
      rcases attachAll_eq_error k.idColumn_not_mem k.goesBy_attachments hfail with
        ⟨name, hname, hmissing⟩ | ⟨hkey, hf⟩
      · exact .inl ⟨name, Kind.mem_tables_of_attached scope hname, hmissing⟩
      · refine .inr ⟨row, hrow, hkey, ?_, hf⟩
        intro hnone
        rw [hnone, attachAll] at hfail
        cases hfail
  · exact .inl (hsource (by rwa [query, hquery] at h))

/-- Where the tables are there it fails at a row. -/
theorem exists_row_of_query_eq_error (htables : ∀ t ∈ (k.query scope).tables, (s.rows? t).isSome)
    (h : s.query (k.query scope) = .error f) :
    ∃ row ∈ s.rowsOf k scope, row.key k.idColumn = none ∧ k.attachments ≠ [] ∧
      f = .missingField k.idColumn := by
  refine (query_eq_error h).resolve_left ?_
  rintro ⟨name, hname, hmissing, -⟩
  have hthere := htables name hname
  rw [hmissing] at hthere
  cases hthere

/-- At such a row it does fail. -/
theorem query_eq_error_of_row (htables : ∀ t ∈ (k.query scope).tables, (s.rows? t).isSome)
    {row : Json} (hrow : row ∈ s.rowsOf k scope) (hkey : row.key k.idColumn = none)
    (hne : k.attachments ≠ []) : s.query (k.query scope) = .error (.missingField k.idColumn) := by
  have hfail : s.attachAll k.attachments row = .error (.missingField k.idColumn) :=
    attachAll_eq_error_of_key hne k.goesBy_attachments
      (fun t ht => htables t (Kind.mem_tables_of_attached scope ht)) hkey
  cases h : s.query (k.query scope) with
  | ok rows =>
      rw [query_eq_of_ok h] at h
      obtain ⟨full, hfull⟩ := exists_mapM_eq_ok_iff.mp ⟨rows, h⟩ row hrow
      rw [hfail] at hfull
      cases hfull
  | error f =>
      obtain ⟨_, -, -, -, rfl⟩ := exists_row_of_query_eq_error htables h
      rfl

/-! ## 2. Rows that take their name back -/

/-- A row that a scope leads to has a null of its own where the link to it has the name of the
    entity. -/
def Unnamed (s : Store) (k : Kind) (scope : Scope) : Prop :=
  ∃ m ∈ s.members k scope, ∃ row ∈ s.table k.entityTable,
    (m.key k.memberColumn).isSome ∧ row.key "id" = m.key k.memberColumn ∧
      row.get? k.idColumn = some .null

section Joined

variable {m row : Json} {column table : String}

/-- A row joined by its id has no name only if it brings a null. -/
theorem null_of_joined (hs : s.Sorted) (h : row ∈ s.joined column table "id" m)
    (hkey : row.key column = none) : ∃ right ∈ s.table table,
      (m.key column).isSome ∧ right.key "id" = m.key column ∧ right.get? column = some .null := by
  obtain ⟨l, r, key, rfl, hr, hl, hid, ho, rfl⟩ := exists_fields_of_mem_joined hs h
  refine ⟨_, hr, by rw [hl]; rfl, hid.trans hl.symm, ?_⟩
  cases hc : Fields.get? column r with
  | none =>
      rw [Row.key_overlaid_of_none ho hc, hl] at hkey
      cases hkey
  | some v =>
      rw [Json.key, Row.get?_overlaid ho, hc, Option.some_or] at hkey
      cases v with
      | null => exact hc
      | _ => cases hkey

/-- A row that brings a null has no name. -/
theorem joined_of_null (hs : s.Sorted) {right : Json} (hr : right ∈ s.table table)
    (hm : (m.key column).isSome) (hid : right.key "id" = m.key column)
    (hnull : right.get? column = some .null) :
    ∃ row ∈ s.joined column table "id" m, row.key column = none := by
  obtain ⟨key, hkey⟩ := Option.isSome_iff_exists.mp hm
  obtain ⟨l, rfl, -⟩ := Json.exists_obj_of_key hkey
  obtain ⟨r, rfl, -⟩ := Json.exists_obj_of_key (hid.trans hkey)
  refine ⟨Row.overlaid (.obj l) (.obj r), ?_, ?_⟩
  · rw [joined, joinedWith_of_key hkey]
    exact List.mem_map_of_mem (mem_withKey.mpr ⟨hr, hid.trans hkey⟩)
  · have hcolumn : Fields.get? column r = some .null := hnull
    rw [Json.key, Row.get?_overlaid (Fields.ordered_of_sorted (hs.of_mem_table hr)), hcolumn]
    rfl

end Joined

/-- **A row to which lists are to be attached is without a name just where one takes it back.** -/
theorem unnamed_iff (hs : s.Sorted) : s.Unnamed k scope ↔
    k.attachments ≠ [] ∧ ∃ row ∈ s.rowsOf k scope, row.key k.idColumn = none := by
  have hnone : ∀ {row m : Json}, (m.key k.memberColumn).isSome → row.key "id" = m.key k.memberColumn →
      row.get? "id" ≠ some .null := by
    intro row m hm hid hnull
    rw [← hid, Json.key, hnull] at hm
    cases hm
  cases k with
  | file =>
      constructor
      · rintro ⟨m, -, row, -, hm, hid, hnull⟩
        exact absurd hnull (hnone hm hid)
      · rintro ⟨-, row, hrow, hkey⟩
        rw [rowsOf_file, List.mem_flatMap] at hrow
        obtain ⟨m, -, hrow⟩ := hrow
        obtain ⟨l, r, key, rfl, -, -, hid, ho, rfl⟩ := exists_fields_of_mem_joined hs hrow
        have hname := Row.key_overlaid_of_right (l := l) ho hid
        rw [show Kind.idColumn .file = "id" from rfl, hname] at hkey
        cases hkey
  | sample | process =>
      constructor
      · rintro ⟨m, hmem, row, hrow, hm, hid, hnull⟩
        obtain ⟨joinedRow, hjoined, hkey⟩ := joined_of_null hs hrow hm hid hnull
        exact ⟨List.cons_ne_nil _ _, joinedRow, List.mem_flatMap.mpr ⟨m, hmem, hjoined⟩, hkey⟩
      · rintro ⟨-, row, hrow, hkey⟩
        obtain ⟨m, hmem, hrow⟩ := List.mem_flatMap.mp hrow
        obtain ⟨right, hright, hm, hid, hnull⟩ := null_of_joined hs hrow hkey
        exact ⟨m, hmem, right, hright, hm, hid, hnull⟩
  | project | user =>
      constructor
      · rintro ⟨m, -, row, -, hm, hid, hnull⟩
        exact absurd hnull (hnone hm hid)
      · rintro ⟨hne, -⟩
        exact absurd rfl hne

end Store

/-! ## 3. Runs -/

namespace Indexing

variable {σ : Type} (x : Indexing)

/-- The same run over rows that are there already. -/
def onRows (rows : List Json) : Indexing := { x with source := ⟨fun _ => .ok ⟨rows, none⟩⟩ }

/-- Where rows come from does not matter to what is made of them. -/
theorem requests_onRows (found rows : List Json) :
    (x.onRows found).requests rows = x.requests rows ∧ (x.onRows found).fault? rows = x.fault? rows := by
  induction rows with
  | nil => exact ⟨rfl, rfl⟩
  | cons row rest ih =>
      have hsame : (x.onRows found).prepare row = x.prepare row := rfl
      simp only [requests, fault?, hsame, ih, and_self]

/-- A run over rows, of which the first make documents and the next, if there is one, does not. -/
structure ReadsUpTo (b : Backend σ) (state : σ) (rows docs rest : List Json) (report : Report)
    (after : σ) (batches : List (List Request)) : Prop where
  rows_eq : rows = docs ++ rest
  /-- It gives a report. -/
  run_eq : x.run b state = (.ok report, after)
  /-- The documents have gone out in these batches, whatever became of them. -/
  submits : x.run b.logged (state, []) = (.ok report, (after, batches))
  requests : docs.map x.prepare = batches.flatten.map .ok
  /-- Over the documents alone it is the same but for what stopped it. -/
  alone : (x.onRows docs).run b.logged (state, []) =
    (.ok { report with cursorError := none }, (after, batches))
  /-- It stopped at the first row that makes no document, and names the reason. -/
  stops : (rest = [] ∧ report.cursorError = none) ∨
    ∃ bad more m, rest = bad :: more ∧ Document.read x.kind bad = .error m ∧
      report.cursorError = some (.decode x.kind.label m.message)

/-- The rows up to the first that makes no document, and the rest. -/
theorem exists_split (rows : List Json) : ∃ docs rest, rows = docs ++ rest ∧
    x.requests docs = x.requests rows ∧ x.fault? docs = none ∧
    docs.map x.prepare = (x.requests rows).map .ok ∧
    ((rest = [] ∧ x.fault? rows = none) ∨
      ∃ bad more m, rest = bad :: more ∧ Document.read x.kind bad = .error m ∧
        x.fault? rows = some (.decode x.kind.label m.message)) := by
  induction rows with
  | nil => exact ⟨[], [], rfl, rfl, rfl, rfl, .inl ⟨rfl, rfl⟩⟩
  | cons row more ih =>
      cases hread : Document.read x.kind row with
      | error m =>
          have hrow : x.prepare row = .error (.decode x.kind.label m.message) := by
            simp only [prepare, hread]
          refine ⟨[], row :: more, rfl, ?_, rfl, ?_, .inr ⟨row, more, m, rfl, hread, ?_⟩⟩
          · rw [requests_cons_error x hrow]
            rfl
          · rw [requests_cons_error x hrow]
            rfl
          · rw [fault?_cons_error x hrow]
      | ok d =>
          obtain ⟨r, hrow⟩ : ∃ r, x.prepare row = .ok r := by
            simp only [prepare, hread]
            exact ⟨_, rfl⟩
          obtain ⟨docs, rest, rfl, hrequests, hfault, hdocs, hstops⟩ := ih
          refine ⟨row :: docs, rest, rfl, ?_, ?_, ?_, ?_⟩
          · rw [requests_cons_ok x hrow, requests_cons_ok x hrow, hrequests]
          · rw [fault?_cons_ok x hrow, hfault]
          · rw [List.map_cons, hrow, hdocs, requests_cons_ok x hrow, List.map_cons]
          · rwa [fault?_cons_ok x hrow]

/-- **A row that makes no document shows in the report alone.** -/
theorem exists_readsUpTo (hs : 0 < x.maxCount) {rows : List Json}
    (h : x.source.execute x.query = .ok ⟨rows, none⟩) (b : Backend σ) (state : σ) :
    ∃ docs rest report after batches, x.ReadsUpTo b state rows docs rest report after batches := by
  obtain ⟨docs, rest, hrows, hrequests, hfault, hdocs, hstops⟩ := x.exists_split rows
  have hrun := Indexing.run_eq b x hs state h
  have hlogged := Indexing.run_eq b.logged x hs (state, []) h
  have halone := Indexing.run_eq b.logged (x.onRows docs) hs (state, []) rfl
  simp only [submitAll_logged, List.nil_append, Option.or_none, requests_onRows, hrequests, hfault]
    at hrun hlogged halone
  refine ⟨docs, rest, _, _, batchesOf x.maxCount (x.requests rows), hrows, hrun, hlogged, ?_, halone,
    hstops⟩
  rw [flatten_batchesOf, hdocs]

end Indexing

namespace Indexers

section Outcomes

variable {σ : Type} {x : Indexers} {s : Store} {k : Kind} {scope : Scope}
  (hx : x.source = .ofStore s) (hs : s.Sorted)
include hx hs

/-- **All outcomes of a run.** Where the tables that its query names are there it gives a report, in
    which a row that makes no document shows as what stopped the reading and nowhere else; unless a row
    takes back the name that it was reached by, which fails the run as a whole. A run fails at such a
    row and at a missing table alone, and nothing has gone out then. -/
theorem run_malformed (b : Backend σ) (state : σ) :
    ((∀ t ∈ (k.query scope).tables, (s.rows? t).isSome) →
      (¬ s.Unnamed k scope → ∃ rows docs rest report after batches,
        s.query (k.query scope) = .ok rows ∧
          (x.indexing k scope).ReadsUpTo b state rows docs rest report after batches) ∧
      (s.Unnamed k scope → x.run b k scope state = (.error (.missingField k.idColumn), state))) ∧
    ∀ f after, x.run b k scope state = (.error f, after) → after = state ∧
      ((∃ t ∈ (k.query scope).tables, s.rows? t = none ∧ f = .missingTable t) ∨
        (s.Unnamed k scope ∧ f = .missingField k.idColumn)) := by
  refine ⟨fun htables => ⟨fun hnamed => ?_, fun hunnamed => ?_⟩, fun f after hrun => ?_⟩
  · cases hq : s.query (k.query scope) with
    | error f =>
        obtain ⟨row, hrow, hkey, hne, -⟩ := Store.exists_row_of_query_eq_error htables hq
        exact absurd ((Store.unnamed_iff hs).mpr ⟨hne, row, hrow, hkey⟩) hnamed
    | ok rows =>
        obtain ⟨docs, rest, report, after, batches, h⟩ := (x.indexing k scope).exists_readsUpTo
          (x.maxCount_pos k scope) (execute_of_query hx hq) b state
        exact ⟨rows, docs, rest, report, after, batches, rfl, h⟩
  · obtain ⟨hne, row, hrow, hkey⟩ := (Store.unnamed_iff hs).mp hunnamed
    exact run_eq_of_query_error hx (Store.query_eq_error_of_row htables hrow hkey hne)
  · cases hq : s.query (k.query scope) with
    | error g =>
        rw [run_eq_of_query_error hx hq] at hrun
        cases hrun
        refine ⟨rfl, (Store.query_eq_error hq).imp_right ?_⟩
        rintro ⟨row, hrow, hkey, hne, hf⟩
        exact ⟨(Store.unnamed_iff hs).mpr ⟨hne, row, hrow, hkey⟩, hf⟩
    | ok rows =>
        obtain ⟨report, last, batches, hreport, -⟩ := run_of_query b state [] hx hq
        rw [hreport] at hrun
        cases hrun

end Outcomes

end Indexers

/-- Two samples of a project, with whatever rows they have. -/
def Store.sampleRows (samples : List Json) : Store :=
  let link (sample : String) : Json :=
    .obj [("id", .str "l"), ("project_id", .str "p-1"), ("sample_id", .str sample)]
  filled [("projects", [.obj [("id", .str "p-1")]]),
    ("project2sample", [link "s-1", link "s-2"]), ("samples", samples)]

/-- The second sample has a number for its name, and makes no document. -/
def Store.numberedName : Store :=
  sampleRows [.obj [("id", .str "s-1"), ("name", .str "bar")],
    .obj [("id", .str "s-2"), ("name", .ofNat 7)]]

/-- It has a null for the column that the links name it in. -/
def Store.nullNamed : Store :=
  sampleRows [.obj [("id", .str "s-1"), ("name", .str "bar")],
    .obj [("id", .str "s-2"), ("sample_id", .null)]]

namespace Indexers

/-- The first sample goes out, and the report names the second. -/
theorem run_malformed_numberedName :
    let x := onStore .numberedName
    x.source = .ofStore .numberedName ∧ Store.numberedName.Sorted ∧
      (∀ t ∈ (Kind.sample.query .all).tables, (Store.numberedName.rows? t).isSome) ∧
      ¬ Store.numberedName.Unnamed .sample .all ∧
      (∃ rows docs rest report after batches,
        Store.numberedName.query (Kind.sample.query .all) = .ok rows ∧
          (x.indexing .sample .all).ReadsUpTo .accepting () rows docs rest report after batches) ∧
      (x.submitted .accepting .sample .all ()).map (·.id) = ["s-1"] ∧
      (x.run .accepting .sample .all ()).1.toOption.bind (·.cursorError) =
        some (.decode "sample" "invalid type: integer `7`, expected a string") := by
  intro x
  have hsorted : Store.numberedName.Sorted := Store.sorted_filled (by decide)
  have htables : ∀ t ∈ (Kind.sample.query .all).tables, (Store.numberedName.rows? t).isSome := by
    decide
  have hnamed : ¬ Store.numberedName.Unnamed .sample .all := by
    rintro ⟨m, -, row, hrow, -, -, hnull⟩
    have hrows : Store.numberedName.table Kind.sample.entityTable =
        [.obj [("id", .str "s-1"), ("name", .str "bar")],
          .obj [("id", .str "s-2"), ("name", .ofNat 7)]] := rfl
    rw [hrows, List.mem_pair] at hrow
    rcases hrow with rfl | rfl <;> cases hnull
  exact ⟨rfl, hsorted, htables, hnamed, ((run_malformed rfl hsorted .accepting ()).1 htables).1 hnamed,
    by decide +kernel, by decide +kernel⟩

/-- **A single row can fail a run as a whole**, though every table is there and another row makes a
    document. -/
theorem run_nullNamed :
    (onStore .nullNamed).source = .ofStore .nullNamed ∧ Store.nullNamed.Sorted ∧
      (∀ t ∈ (Kind.sample.query .all).tables, (Store.nullNamed.rows? t).isSome) ∧
      ((onStore .nullNamed).request? .nullNamed .sample
        (.obj [("id", .str "s-1"), ("name", .str "bar"), ("sample_id", .str "s-1")])).isSome ∧
      (onStore .nullNamed).run .accepting .sample .all () =
        (.error (.query "Row field `sample_id` is not available"), ()) := by
  refine ⟨rfl, Store.sorted_filled (by decide), by decide, by decide +kernel, ?_⟩
  rfl

end Indexers

end LabIndex
