import LabIndex.Proofs.Change.Replay

/-!
# A change is followed by look-ups

A run over no ids would be a run over everything. The ids that a change asks for come from rows, and
what is no text in these is left out, so they could all be gone; a kind without ids is then no part of
the plan. So whatever the source answers, following a change asks it for the rows of some ids, and never
for a whole table.

* `Query.LooksUp`: a query that starts from the rows with some ids;
* `Kind.looksUp_query`: the query of a kind over ids that someone names;
* `Source.AnswersAlike`: sources that answer look-ups alike, and `Indexers.apply_congr`: these are all
  that following a change asks for;
* `Indexers.apply_looksUp`: the runs of a change, each with its ids.
-/

namespace LabIndex

/-! ## 1. Look-ups -/

namespace Query

mutual

/-- A query reads some table from end to end. -/
def scans : Query → Bool
  | .table _ => true
  | .getAll _ _ _ => false
  | .pluck source _ => scans source
  | .eqJoin source _ _ _ => scans source
  | .zip source => scans source
  | .copyField source _ _ => scans source
  | .merge source fields => scans source || fieldScans fields

/-- An attached query does. -/
def fieldScans : List (String × Query) → Bool
  | [] => false
  | (_, query) :: rest => scans query || fieldScans rest

end

/-- A query starts from the rows of a table with some ids in a column, of which there is one at least,
    and it reads no table from end to end. -/
def LooksUp (table index : String) (ids : List String) (q : Query) : Prop :=
  ids ≠ [] ∧ q.leaf = .getAllBy table index ids ∧ q.scans = false

theorem looksUp_getAllBy {ids : List String} (h : ids ≠ []) (table index : String) :
    (Query.getAllBy table index ids).LooksUp table index ids := ⟨h, rfl, rfl⟩

end Query

theorem Scope.ofIds_ne_all {ids : List String} (h : ids ≠ []) : Scope.ofIds ids ≠ .all := by
  intro hall
  have hids := Scope.ids?_ofIds h
  rw [hall] at hids
  cases hids

namespace Kind

variable {k : Kind}

/-- A linked kind starts from its members. -/
theorem leaf_query_of_linked (hk : k.isLinked = true) (scope : Scope) :
    (k.query scope).leaf = (membership k.memberTable k.memberColumn scope).leaf := by
  cases k <;> first | rfl | cases hk

/-- What is attached to the rows of a kind is looked up. -/
theorem scans_query_of_linked (hk : k.isLinked = true) (scope : Scope) :
    (k.query scope).scans = (membership k.memberTable k.memberColumn scope).scans := by
  cases k <;> first | exact Bool.or_false _ | cases hk

/-- **Over ids that someone names a kind looks its members up by them.** -/
theorem looksUp_query {ids : List String} (h : ids ≠ []) (k : Kind) :
    (k.query (.ofIds ids)).LooksUp k.memberTable k.memberColumn ids := by
  have hids := Scope.ids?_ofIds h
  have hlook := Query.looksUp_getAllBy h k.memberTable k.memberColumn
  cases hk : k.isLinked with
  | true =>
      have hmembers : membership k.memberTable k.memberColumn (.ofIds ids) =
          .getAllBy k.memberTable k.memberColumn ids := by
        simp only [membership, hids]
      rw [Query.LooksUp, leaf_query_of_linked hk, scans_query_of_linked hk, hmembers]
      exact hlook
  | false =>
      have hrows : k.query (.ofIds ids) = .getAllBy k.memberTable k.memberColumn ids := by
        rw [query_of_plain hk, memberColumn_of_plain hk]
        simp only [plainQuery, hids, Query.get]
      rw [hrows]
      exact hlook

end Kind

/-! ## 2. Sources that answer look-ups alike -/

/-- Two sources answer every look-up alike: with the same rows, or with the same failure. -/
def Source.AnswersAlike (src src' : Source) : Prop :=
  ∀ table index ids q, Query.LooksUp table index ids q → src.execute q = src'.execute q

section Alike

variable {src src' : Source}

theorem Source.AnswersAlike.allRows_getAllBy (h : src.AnswersAlike src') {ids : List String}
    (hids : ids ≠ []) (table index : String) :
    src.allRows (.getAllBy table index ids) = src'.allRows (.getAllBy table index ids) := by
  rw [Source.allRows, Source.allRows, h _ _ _ _ (Query.looksUp_getAllBy hids table index)]

namespace ChangeEvent

/-- The tables with the links that plans follow. -/
def planTables : List String := ["sample2datafile", "sample2propertyset", "note2item"]

/-- The look-ups of plans are answered alike. -/
def PlansAlike (src src' : Source) : Prop :=
  ∀ table ∈ planTables, ∀ (index : String) (ids : List String), ids ≠ [] →
    src.allRows (.getAllBy table index ids) = src'.allRows (.getAllBy table index ids)

section Plans

variable (h : PlansAlike src src')
include h

theorem lookUp_congr {table : String} (ht : table ∈ planTables) {ids : List String}
    (hids : ids ≠ []) (index key : String) :
    lookUp src (.getAllBy table index ids) key = lookUp src' (.getAllBy table index ids) key := by
  rw [lookUp, lookUp, h _ ht _ _ hids]

/-- Where there are no files nothing is asked. -/
theorem samplesUsing_congr (files : List String) : samplesUsing src files = samplesUsing src' files := by
  rw [samplesUsing, samplesUsing]
  by_cases hfiles : files = []
  · subst hfiles
    rfl
  · rw [lookUp_congr h (by decide) hfiles]

theorem fileTargets_congr (files : List String) : fileTargets src files = fileTargets src' files := by
  rw [fileTargets, fileTargets, samplesUsing_congr h]

/-- **A plan is made from look-ups** of links. -/
theorem plan_eq_of_plansAlike (e : ChangeEvent) : e.plan src = e.plan src' := by
  cases e with
  | file id => exact fileTargets_congr h [id]
  | projectFile | sample | sampleFile | process | project | user => rfl
  | propertySet id => rw [plan, plan, lookUp_congr h (by decide) (List.cons_ne_nil id [])]
  | note id =>
      rw [plan, plan, h _ (by decide) _ _ (List.cons_ne_nil id [])]
      exact bind_congr fun rows => fileTargets_congr h _
  | noteItem type id | tag type id => rw [plan, plan, fileTargets_congr h]

end Plans

/-- Sources that answer all look-ups alike make the same plans. -/
theorem plan_congr (h : src.AnswersAlike src') (e : ChangeEvent) : e.plan src = e.plan src' :=
  plan_eq_of_plansAlike (fun table _ index _ hids => h.allRows_getAllBy hids table index) e

end ChangeEvent

end Alike

/-! ## 3. Runs -/

namespace Indexers

variable {σ : Type} (x : Indexers) (b : Backend σ)

/-- The same indexers with another source. -/
def readingFrom (src : Source) : Indexers := { x with source := src }

section Alike

variable {src : Source} (h : x.source.AnswersAlike src)
include h

theorem run_readingFrom {ids : List String} (hids : ids ≠ []) (k : Kind) (state : σ) :
    (x.readingFrom src).run b k (.ofIds ids) state = x.run b k (.ofIds ids) state :=
  Indexing.run_of_source b (x.indexing k (.ofIds ids)) (h _ _ _ _ (k.looksUp_query hids)).symm state

theorem runAll_readingFrom {targets : List Target} (ht : ∀ t ∈ targets, t.ids ≠ []) (state : σ) :
    (x.readingFrom src).runAll b targets state = x.runAll b targets state := by
  induction targets generalizing state with
  | nil => rfl
  | cons t rest ih =>
      rw [List.forall_mem_cons] at ht
      simp only [runAll, x.run_readingFrom b h ht.1, ih ht.2]

/-- **A change is followed by look-ups alone.** -/
theorem apply_readingFrom (e : ChangeEvent) (state : σ) :
    (x.readingFrom src).apply b e state = x.apply b e state := by
  rw [apply, apply, readingFrom, ← ChangeEvent.plan_congr h e]
  cases hp : e.plan x.source with
  | error f => rfl
  | ok targets => exact x.runAll_readingFrom b h (ChangeEvent.ids_ne_nil_of_plan hp) state

end Alike

/-- **A change never asks for everything.** Whatever the source answers, rows, rows that stop early or
    failures, and whatever ids the change names, every target of its plan has some ids. Following it
    runs these targets, each over just its ids, where the members of the kind are looked up by them and
    no table is read from end to end; or nothing at all where the plan fails. Nothing else is asked of
    the source: any other that answers look-ups alike makes no difference, to the plan or to the runs,
    were it to fail whenever a whole table is read. -/
theorem apply_looksUp (e : ChangeEvent) (state : σ) :
    (∀ targets, e.plan x.source = .ok targets →
      x.apply b e state = x.runEach b (targets.map fun t => (t.kind, .ofIds t.ids)) state ∧
      ∀ t ∈ targets, t.ids ≠ [] ∧ Scope.ofIds t.ids ≠ .all ∧
        (Scope.ofIds t.ids).ids? = some t.ids ∧
        (t.kind.query (.ofIds t.ids)).LooksUp t.kind.memberTable t.kind.memberColumn t.ids) ∧
    (∀ f, e.plan x.source = .error f → x.apply b e state = (.error f, state)) ∧
    ∀ src, x.source.AnswersAlike src →
      e.plan src = e.plan x.source ∧ (x.readingFrom src).apply b e state = x.apply b e state := by
  refine ⟨fun targets hp => ⟨?_, fun t ht => ?_⟩, fun f hp => ?_, fun src h => ?_⟩
  · rw [apply, hp]
    exact x.runAll_eq b targets state
  · have hids := ChangeEvent.ids_ne_nil_of_plan hp t ht
    exact ⟨hids, Scope.ofIds_ne_all hids, Scope.ids?_ofIds hids, t.kind.looksUp_query hids⟩
  · rw [apply, hp]
  · exact ⟨(ChangeEvent.plan_congr h e).symm, x.apply_readingFrom b h e state⟩

-- a property set whose only sample is named by a number
example : (ChangeEvent.propertySet "").plan (.ofStore (.ofTables [("sample2propertyset",
    [.obj [("property_set_id", .str ""), ("sample_id", .ofNat 7)]])])) = .ok [] := by decide +kernel

end Indexers

end LabIndex
