import LabIndex.Change.Plan
import LabIndex.Proofs.Indexing.Scopes
import LabIndex.Proofs.Search.Held

/-!
# What complete runs write

A run is complete when its reading was stopped by nothing and every batch was taken. What complete
runs write is then a matter of the store alone: the requests of the rows, run by run, whatever the
size of the batches and the state of the backend. An engine that has taken requests shows them over
what was there, and the index that it publishes is the one that it sees.

* `Backend.Takes`: requests that came in batches of which each was taken;
* `Indexers.takes_of_runEach`: complete runs in turn, with `Indexers.runAll_eq` and
  `Indexers.runKinds_eq`, which say what a followed change and a rebuild run;
* `Indexers.requestsOf_ofIds`, `Indexers.uid_of_mem_requestsAt`: a run over some ids, id by id;
* `Indexers.upserts_requestsFor`: which request is the last under a key;
* `IndexDirectory.written_of_takes`: an engine that took requests;
* `IndexDirectory.showsSame_iff_of_takes`: when two ways of writing leave the same documents;
* `Indexers.complete_of_mayWrite`: runs that read everything are complete when their engine may
  write.
-/

namespace LabIndex

/-! ## 1. Batches that were taken -/

/-- Requests came to a backend in batches, and each batch was taken: from one state to another. -/
inductive Backend.Takes {σ : Type} (b : Backend σ) : σ → List Request → σ → Prop
  | nothing (state : σ) : b.Takes state [] state
  | batch {state after : σ} {batch rest : List Request} {count : Nat} (hne : batch ≠ [])
      (hok : (b.submit state batch).1 = .ok count)
      (hrest : b.Takes (b.submit state batch).2 rest after) : b.Takes state (batch ++ rest) after

section Takes

variable {σ : Type} {b : Backend σ} {state mid after : σ} {xs ys : List Request}

theorem Backend.Takes.append (hx : b.Takes state xs mid) (hy : b.Takes mid ys after) :
    b.Takes state (xs ++ ys) after := by
  induction hx with
  | nothing => exact hy
  | batch hne hok _ ih =>
      rw [List.append_assoc]
      exact .batch hne hok (ih hy)

/-- Batches whose fates are all good were taken. -/
theorem takes_submitAll {batches : List (List Request)} (hne : ∀ batch ∈ batches, batch ≠ [])
    (h : ∀ outcome ∈ List.zipWith BatchOutcome.ofAnswer batches (b.submitAll state batches).1,
      outcome.committed = true) :
    b.Takes state batches.flatten (b.submitAll state batches).2 := by
  induction batches generalizing state with
  | nil => exact .nothing state
  | cons batch rest ih =>
      rw [submitAll_cons, List.zipWith_cons_cons, List.forall_mem_cons] at h
      rw [submitAll_cons, List.flatten_cons]
      have hrest := ih (fun piece hp => hne piece (List.mem_cons_of_mem _ hp)) h.2
      cases ha : (b.submit state batch).1 with
      | ok count => exact .batch (hne batch List.mem_cons_self) ha hrest
      | error f =>
          rw [ha] at h
          cases h.1

end Takes

/-! ## 2. Runs that are complete -/

namespace Indexers

/-- The requests of the rows of a kind that a scope covers. -/
def requestsOf (x : Indexers) (s : Store) (k : Kind) (scope : Scope) : List Request :=
  (s.rowsOf k scope).filterMap (x.request? s k)

/-- Runs kinds over scopes in turn, up to the first that fails. -/
def runEach {σ : Type} (x : Indexers) (b : Backend σ) :
    List (Kind × Scope) → σ → Except Failure (List Report) × σ
  | [], state => (.ok [], state)
  | (kind, scope) :: rest, state =>
    match x.run b kind scope state with
    | (.error f, state) => (.error f, state)
    | (.ok report, state) =>
      match x.runEach b rest state with
      | (.error f, state) => (.error f, state)
      | (.ok reports, state) => (.ok (report :: reports), state)

variable {σ : Type} (x : Indexers) (b : Backend σ)

/-- Running targets is running their kinds over their ids. -/
theorem runAll_eq (targets : List Target) (state : σ) :
    x.runAll b targets state =
      x.runEach b (targets.map fun t => (t.kind, .ofIds t.ids)) state := by
  induction targets generalizing state with
  | nil => rfl
  | cons t rest ih =>
      have hrest := funext ih
      rw [runAll, hrest]
      rfl

/-- Running kinds over everything. -/
theorem runKinds_eq (kinds : List Kind) (state : σ) :
    x.runKinds b kinds state = x.runEach b (kinds.map fun k => (k, .all)) state := by
  induction kinds generalizing state with
  | nil => rfl
  | cons k rest ih =>
      have hrest := funext ih
      rw [runKinds, hrest]
      rfl

/-- Runs ended, and each is complete. -/
def Complete (answer : Except Failure (List Report)) : Prop :=
  ∃ reports, answer = .ok reports ∧ ∀ report ∈ reports, report.isComplete = true

instance : DecidablePred Complete
  | .ok reports =>
    decidable_of_iff (∀ report ∈ reports, report.isComplete = true)
      ⟨fun h => ⟨reports, rfl, h⟩, fun ⟨_, h, hall⟩ => Except.ok.inj h ▸ hall⟩
  | .error _ => .isFalse fun ⟨_, h, _⟩ => nomatch h

theorem complete_cons {report : Report} {answer : Except Failure (List Report)} :
    Complete (answer.map (report :: ·)) ↔ report.isComplete = true ∧ Complete answer := by
  cases answer with
  | error f =>
      constructor
      · rintro ⟨_, h, -⟩
        cases h
      · rintro ⟨-, _, h, -⟩
        cases h
  | ok reports =>
      constructor
      · rintro ⟨_, h, hall⟩
        obtain rfl := Except.ok.inj h
        rw [List.forall_mem_cons] at hall
        exact ⟨hall.1, reports, rfl, hall.2⟩
      · rintro ⟨hfirst, _, h, hall⟩
        obtain rfl := Except.ok.inj h
        exact ⟨_, rfl, List.forall_mem_cons.mpr ⟨hfirst, hall⟩⟩

section Runs

variable {x b} {s : Store} {k : Kind} {scope : Scope} {state after : σ}

/-- A run over rows that were found hands their requests on in batches. -/
theorem run_eq_of_query (hx : x.source = .ofStore s) {rows : List Json}
    (hq : s.query (k.query scope) = .ok rows) (b : Backend σ) (state : σ) :
    let batches := batchesOf (x.indexing k scope).maxCount ((x.indexing k scope).requests rows)
    (∀ batch ∈ batches, batch ≠ []) ∧
      x.run b k scope state =
        (.ok ⟨k, ((x.indexing k scope).requests rows).length,
          List.zipWith BatchOutcome.ofAnswer batches (b.submitAll state batches).1,
          (x.indexing k scope).fault? rows⟩, (b.submitAll state batches).2) := by
  have hsize : 0 < (x.indexing k scope).maxCount := by
    simp only [indexing, atLeastOne]
    omega
  have he : (x.indexing k scope).source.execute (x.indexing k scope).query =
      .ok ⟨rows, none⟩ := by
    simp only [indexing, hx, Source.ofStore, hq]
    rfl
  refine ⟨fun piece hp => (length_of_mem_batchesOf hsize hp).1, ?_⟩
  have hrun := Indexing.run_eq b (x.indexing k scope) hsize state he
  rw [Option.or_none] at hrun
  exact hrun

/-- A run whose query cannot be run gives no report. -/
theorem run_eq_of_query_error (hx : x.source = .ofStore s) {f : Failure}
    (hq : s.query (k.query scope) = .error f) : x.run b k scope state = (.error f, state) := by
  simp only [run, Indexing.run, indexing, hx, Source.ofStore, hq]
  rfl

/-- The requests of a kind are made of what its query yields. -/
theorem requestsOf_of_query {rows : List Json} (hq : s.query (k.query scope) = .ok rows) :
    x.requestsOf s k scope =
      rows.filterMap fun row => ((x.indexing k scope).prepare row).toOption := by
  rw [eq_filterMap_of_mapM ((s.query_eq_of_ok hq).symm.trans hq), List.filterMap_filterMap]
  rfl

/-- **A complete run has its requests taken**, those of all rows. -/
theorem takes_of_run (hx : x.source = .ofStore s) {report : Report}
    (h : x.run b k scope state = (.ok report, after)) (hc : report.isComplete = true) :
    b.Takes state (x.requestsOf s k scope) after := by
  cases hq : s.query (k.query scope) with
  | error f =>
      rw [run_eq_of_query_error hx hq] at h
      cases h
  | ok rows =>
      obtain ⟨hne, hrun⟩ := run_eq_of_query hx hq b state
      rw [h, Prod.mk.injEq] at hrun
      obtain ⟨hreport, rfl⟩ := hrun
      rw [Except.ok.inj hreport, Report.isComplete, Bool.and_eq_true, List.all_eq_true,
        Option.isNone_iff_eq_none] at hc
      obtain ⟨hfault, hall⟩ := hc
      have hreq : (x.indexing k scope).requests rows = x.requestsOf s k scope := by
        rw [Indexing.requests_eq_filterMap _ hfault, requestsOf_of_query hq]
      have htakes := takes_submitAll hne hall
      rw [flatten_batchesOf] at htakes
      rw [← hreq]
      exact htakes

theorem runEach_cons_ok {report : Report} (h : x.run b k scope state = (.ok report, after))
    (rest : List (Kind × Scope)) :
    x.runEach b ((k, scope) :: rest) state =
      ((x.runEach b rest after).1.map (report :: ·), (x.runEach b rest after).2) := by
  simp only [runEach, h]
  rcases x.runEach b rest after with ⟨_ | _, _⟩ <;> rfl

theorem runEach_cons_error {f : Failure} (h : x.run b k scope state = (.error f, after))
    (rest : List (Kind × Scope)) :
    x.runEach b ((k, scope) :: rest) state = (.error f, after) := by
  simp only [runEach, h]

/-- **Complete runs have their requests taken**, run after run. -/
theorem takes_of_runEach (hx : x.source = .ofStore s) {runs : List (Kind × Scope)}
    (h : Complete (x.runEach b runs state).1) :
    b.Takes state (runs.flatMap fun r => x.requestsOf s r.1 r.2) (x.runEach b runs state).2 := by
  -- a run that fails ends them all, so in complete runs each has a report
  induction runs generalizing state with
  | nil => exact .nothing state
  | cons first rest ih =>
      obtain ⟨kind, scope⟩ := first
      rcases hfirst : x.run b kind scope state with ⟨f | report, mid⟩
      · rw [runEach_cons_error hfirst] at h
        obtain ⟨_, hr, -⟩ := h
        cases hr
      · rw [runEach_cons_ok hfirst] at h ⊢
        obtain ⟨hreport, hrest⟩ := complete_cons.mp h
        rw [List.flatMap_cons]
        exact (takes_of_run hx hfirst hreport).append (ih hrest)

/-- A complete rebuild has the requests of all kinds taken. -/
theorem takes_of_rebuild (hx : x.source = .ofStore s) (h : Complete (x.rebuild b state).1) :
    b.Takes state (Kind.all.flatMap fun k => x.requestsOf s k .all) (x.rebuild b state).2 := by
  rw [rebuild, runKinds_eq] at h ⊢
  have htakes := takes_of_runEach hx h
  rwa [List.flatMap_map] at htakes

end Runs

/-! ## 3. Requests id by id -/

/-- The requests of the members that name an id. -/
def requestsAt (s : Store) (k : Kind) (id : String) : List Request :=
  ((Store.withKey k.memberColumn id (s.table k.memberTable)).flatMap (s.expand k)).filterMap
    (x.request? s k)

/-- The requests of some entities. -/
def requestsFor (s : Store) (entities : List (Kind × String)) : List Request :=
  entities.flatMap fun e => x.requestsAt s e.1 e.2

/-- The written key of an entity. -/
def uidOf (e : Kind × String) : String := (DocumentKey.mk x.settings.indexName e.1 e.2).uid

theorem uidOf_injective : x.uidOf.Injective := by
  rintro ⟨k, id⟩ ⟨k', id'⟩ h
  have hkey : DocumentKey.mk x.settings.indexName k id = ⟨x.settings.indexName, k', id'⟩ :=
    DocumentKey.eq_of_uid_eq rfl h
  rw [DocumentKey.mk.injEq] at hkey
  rw [hkey.2.1, hkey.2.2]

/-- A written key is no shorter than its id. -/
theorem utf8ByteSize_le_uidOf (k : Kind) (id : String) :
    id.utf8ByteSize ≤ (x.uidOf (k, id)).utf8ByteSize := by
  rw [uidOf, DocumentKey.uid, String.utf8ByteSize_append]
  exact Nat.le_add_left _ _

section Ids

variable {x} {s : Store} {k : Kind}

/-- **A run over some ids makes the requests of one id after those of another.** -/
theorem requestsOf_ofIds {ids : List String} (hne : ids ≠ []) :
    x.requestsOf s k (.ofIds ids) = x.requestsFor s (ids.map fun id => (k, id)) := by
  rw [requestsOf, Store.rowsOf, Store.members, Scope.ids?_ofIds hne, requestsFor, List.flatMap_map]
  simp only [List.flatMap_assoc, List.filterMap_flatMap, requestsAt]

/-- The request of a row has the key of its kind and its id. -/
theorem uid_of_request? {row : Json} {r : Request} (h : x.request? s k row = some r) :
    r.uid = x.uidOf (k, r.id) := by
  obtain ⟨_, _, -, -, rfl⟩ := exists_document_of_request? h
  rfl

theorem uid_of_mem_requestsOf {scope : Scope} {r : Request} (h : r ∈ x.requestsOf s k scope) :
    r.uid = x.uidOf (k, r.id) := by
  obtain ⟨row, -, hr⟩ := List.mem_filterMap.mp h
  exact uid_of_request? hr

/-- **The requests of an entity have its key.** -/
theorem uid_of_mem_requestsAt (hs : s.Sorted) (hi : s.KeepsIds) (e : Kind × String) :
    ∀ r ∈ x.requestsAt s e.1 e.2, r.uid = x.uidOf e := by
  intro r h
  obtain ⟨row, hrow, hr⟩ := List.mem_filterMap.mp h
  obtain ⟨m, hm, hrow⟩ := List.mem_flatMap.mp hrow
  obtain ⟨-, hkey⟩ := Store.mem_withKey.mp hm
  have hobj : e.1.isLinked = false → ∀ items, m ≠ .arr items := by
    rintro - items rfl
    cases hkey
  have hid := key_of_request? hs (hi.keepsId e.1) hobj hrow hr
  rw [hkey, Option.some.injEq] at hid
  rw [uid_of_request? hr, ← hid]

end Ids

/-! ## 4. The last request under a key -/

section Last

open Search (upserts)

variable {α : Type} [BEq α] [LawfulBEq α] {pieces : List α} {g : α → List Request} {key : α → String}

/-- Of pieces that have a key each, the requests with a key are those of its piece, as often as it
    is there. -/
theorem filter_flatMap_pieces (hkey : ∀ a, ∀ r ∈ g a, r.uid = key a) (hinj : key.Injective) (a : α) :
    (pieces.flatMap g).filter (·.uid = key a) = (List.replicate (pieces.count a) (g a)).flatten := by
  have hpiece : ∀ p ∈ pieces, (g p).filter (·.uid = key a) = if p == a then g p else [] := by
    intro p _
    by_cases hp : p = a
    · subst hp
      simpa using hkey p
    · rw [if_neg (by simpa using hp), List.filter_eq_nil_iff]
      intro r hr hra
      rw [decide_eq_true_eq, hkey p r hr] at hra
      exact hp (hinj hra)
  rw [filter_flatMap_eq hpiece, List.filter_beq, List.flatMap_def, List.map_replicate]

theorem upserts_flatMap_of_mem (hkey : ∀ a, ∀ r ∈ g a, r.uid = key a) (hinj : key.Injective) {a : α}
    (ha : a ∈ pieces) : upserts (pieces.flatMap g) (key a) = (g a).getLast? := by
  have hcount : pieces.count a ≠ 0 := by
    rw [Ne, List.count_eq_zero, not_not]
    exact ha
  rw [Search.upserts_eq_getLast?, filter_flatMap_pieces hkey hinj, List.getLast?_flatten,
    List.reverse_replicate, List.findSome?_replicate, if_neg hcount]

omit [BEq α] [LawfulBEq α] in
theorem upserts_flatMap_of_forall_ne (hkey : ∀ a, ∀ r ∈ g a, r.uid = key a) {uid : String}
    (h : ∀ a ∈ pieces, key a ≠ uid) : upserts (pieces.flatMap g) uid = none := by
  rw [Search.upserts_eq_getLast?, List.getLast?_eq_none_iff, List.filter_eq_nil_iff]
  intro r hr hu
  obtain ⟨a, ha, hr⟩ := List.mem_flatMap.mp hr
  rw [decide_eq_true_eq, hkey a r hr] at hu
  exact h a ha hu

/-- **Pieces with the same members have the same last request under each key.** -/
theorem upserts_flatMap_congr (hkey : ∀ a, ∀ r ∈ g a, r.uid = key a) (hinj : key.Injective)
    {pieces' : List α} (h : ∀ a, a ∈ pieces ↔ a ∈ pieces') :
    upserts (pieces.flatMap g) = upserts (pieces'.flatMap g) := by
  funext uid
  by_cases hu : ∃ a ∈ pieces, key a = uid
  · obtain ⟨a, ha, rfl⟩ := hu
    rw [upserts_flatMap_of_mem hkey hinj ha, upserts_flatMap_of_mem hkey hinj ((h a).mp ha)]
  · have hne : ∀ a ∈ pieces, key a ≠ uid := fun a ha e => hu ⟨a, ha, e⟩
    rw [upserts_flatMap_of_forall_ne hkey hne,
      upserts_flatMap_of_forall_ne hkey fun a ha => hne a ((h a).mpr ha)]

end Last

section Entities

open Search (upserts)

variable {x} {s : Store} {entities entities' : List (Kind × String)}

/-- The requests under the key of an entity are its own, as often as it is asked for. -/
theorem filter_requestsFor (hs : s.Sorted) (hi : s.KeepsIds) (entities : List (Kind × String))
    (e : Kind × String) :
    (x.requestsFor s entities).filter (·.uid = x.uidOf e) =
      (List.replicate (entities.count e) (x.requestsAt s e.1 e.2)).flatten :=
  filter_flatMap_pieces (uid_of_mem_requestsAt hs hi) x.uidOf_injective e

/-- **The last request under the key of an entity is the last one that the store gives for it**,
    however often and in whatever company it is asked for. -/
theorem upserts_requestsFor (hs : s.Sorted) (hi : s.KeepsIds) {e : Kind × String}
    (h : e ∈ entities) :
    upserts (x.requestsFor s entities) (x.uidOf e) = (x.requestsAt s e.1 e.2).getLast? :=
  upserts_flatMap_of_mem (uid_of_mem_requestsAt hs hi) x.uidOf_injective h

theorem upserts_requestsFor_congr (hs : s.Sorted) (hi : s.KeepsIds)
    (h : ∀ e, e ∈ entities ↔ e ∈ entities') :
    upserts (x.requestsFor s entities) = upserts (x.requestsFor s entities') :=
  upserts_flatMap_congr (uid_of_mem_requestsAt hs hi) x.uidOf_injective h

end Entities

end Indexers

/-! ## 5. Engines that took requests -/

namespace Search.IndexDirectory

variable {d d₁ d₂ : IndexDirectory} {n : Nat} {xs ys : List Request}

/-- **An engine that took requests has written them**, unless there were none. -/
theorem written_of_takes (h : (backend n).Takes d xs d₁) :
    xs = [] ∧ d₁ = d ∨ xs ≠ [] ∧ Written d n xs d₁ := by
  induction h with
  | nothing => exact .inl ⟨rfl, rfl⟩
  | @batch state after batch rest count hne hok _ ih =>
      have hbatch : Written state n batch ((backend n).submit state batch).2 :=
        written_of_submit hok
      refine .inr ⟨by simp [hne], ?_⟩
      rcases ih with ⟨rfl, rfl⟩ | ⟨-, hrest⟩
      · rwa [List.append_nil]
      · exact hbatch.append hrest

/-- Of two engines that took requests with the same members, both have written them or neither. -/
theorem written_of_takes_both (hx : (backend n).Takes d xs d₁) (hy : (backend n).Takes d ys d₂)
    (hmem : ∀ r, r ∈ xs ↔ r ∈ ys) :
    xs = [] ∧ d₁ = d₂ ∨ Written d n xs d₁ ∧ Written d n ys d₂ := by
  have hnil : xs = [] ↔ ys = [] := by simp only [List.eq_nil_iff_forall_not_mem, hmem]
  rcases written_of_takes hx with ⟨hxs, rfl⟩ | ⟨hxs, hwx⟩ <;>
    rcases written_of_takes hy with ⟨hys, rfl⟩ | ⟨hys, hwy⟩
  · exact .inl ⟨hxs, rfl⟩
  · exact absurd (hnil.mp hxs) hys
  · exact absurd (hnil.mpr hys) hxs
  · exact .inr ⟨hwx, hwy⟩

/-- **Two directories show the same documents**, in the index and to one of their engines. -/
structure ShowsSame (n : Nat) (d₁ d₂ : IndexDirectory) : Prop where
  published : d₁.published.SameDocuments d₂.published
  view : (d₁.view n).SameDocuments (d₂.view n)

theorem Written.showsSame_iff (hx : Written d n xs d₁) (hy : Written d n ys d₂)
    (hmem : ∀ r, r ∈ xs ↔ r ∈ ys) :
    ShowsSame n d₁ d₂ ↔
      ∀ r ∈ xs, r.uid.utf8ByteSize ≤ longTerm → upserts xs r.uid = upserts ys r.uid := by
  have hsame := Index.sameDocuments_applyAll_iff (d.published.applyAll d.queued) hmem
  rw [← hx.published, ← hy.published] at hsame
  rw [← hsame]
  constructor
  · exact fun h => h.published
  · intro h
    refine ⟨h, ?_⟩
    rwa [hx.view, hy.view]

/-- **Requests with the same members leave the same documents** where the last ones under each key
    are the same, however they were cut into batches. -/
theorem showsSame_iff_of_takes (hx : (backend n).Takes d xs d₁) (hy : (backend n).Takes d ys d₂)
    (hmem : ∀ r, r ∈ xs ↔ r ∈ ys) :
    ShowsSame n d₁ d₂ ↔
      ∀ r ∈ xs, r.uid.utf8ByteSize ≤ longTerm → upserts xs r.uid = upserts ys r.uid := by
  rcases written_of_takes_both hx hy hmem with ⟨rfl, rfl⟩ | ⟨hwx, hwy⟩
  · exact ⟨fun _ r hr => absurd hr List.not_mem_nil, fun _ => ⟨.refl _, .refl _⟩⟩
  · exact hwx.showsSame_iff hwy hmem

/-- One engine on an empty index. -/
def single : IndexDirectory := ((ofIndex []).openEngine leastThreadMemory).2

theorem mayWrite_single : single.writeFailure? 0 = none := by decide

end Search.IndexDirectory

/-! ## 6. Engines that may write -/

namespace Indexers

open Search (IndexDirectory)

variable {x : Indexers} {s : Store} {n : Nat}

/-- Batches given to an engine that may write are taken. -/
theorem committed_of_mayWrite {d : IndexDirectory} (h : d.writeFailure? n = none)
    (batches : List (List Request)) :
    (∀ outcome ∈ List.zipWith BatchOutcome.ofAnswer batches
        ((IndexDirectory.backend n).submitAll d batches).1, outcome.committed = true) ∧
      ((IndexDirectory.backend n).submitAll d batches).2.writeFailure? n = none := by
  induction batches generalizing d with
  | nil => exact ⟨by simp, h⟩
  | cons batch rest ih =>
      obtain ⟨hok, hmay⟩ := IndexDirectory.submit_of_mayWrite h batch
      obtain ⟨hrest, hlast⟩ := ih hmay
      have hfirst : ((IndexDirectory.backend n).submit d batch).1 = .ok batch.length := hok
      rw [submitAll_cons, List.zipWith_cons_cons, List.forall_mem_cons, hfirst]
      exact ⟨⟨rfl, hrest⟩, hlast⟩

/-- **Runs that read everything are complete when their engine may write.** -/
theorem complete_of_mayWrite (hx : x.source = .ofStore s) {runs : List (Kind × Scope)}
    (hr : ∀ r ∈ runs, ∀ d : IndexDirectory, x.ReadsAll (IndexDirectory.backend n) r.1 r.2 d)
    {d : IndexDirectory} (h : d.writeFailure? n = none) :
    Complete (x.runEach (IndexDirectory.backend n) runs d).1 ∧
      (x.runEach (IndexDirectory.backend n) runs d).2.writeFailure? n = none := by
  -- that the engine may write is what each run hands on to the next
  induction runs generalizing d with
  | nil => exact ⟨⟨[], rfl, by simp⟩, h⟩
  | cons first rest ih =>
      obtain ⟨kind, scope⟩ := first
      obtain ⟨rows, hq, hfault⟩ := (readsAll_iff_query hx).mp (hr _ List.mem_cons_self d)
      obtain ⟨-, hrun⟩ := run_eq_of_query hx hq (IndexDirectory.backend n) d
      obtain ⟨hall, hmay⟩ := committed_of_mayWrite h
        (batchesOf (x.indexing kind scope).maxCount ((x.indexing kind scope).requests rows))
      obtain ⟨hrest, hlast⟩ := ih (fun r hm => hr r (List.mem_cons_of_mem _ hm)) hmay
      rw [runEach_cons_ok hrun]
      refine ⟨complete_cons.mpr ⟨?_, hrest⟩, hlast⟩
      rw [Report.isComplete, hfault, Option.isNone_none, Bool.true_and, List.all_eq_true]
      exact hall

end Indexers

/-- A sample with a file, in two projects, of which the second comes first among the links. -/
def Store.twiceLinked : Store :=
  let link (project : String) : Json :=
    .obj [("id", .str "l"), ("project_id", .str project), ("sample_id", .str "s-1")]
  filled [
    ("projects", [.obj [("id", .str "p-1")], .obj [("id", .str "p-2")]]),
    ("project2sample", [link "p-2", link "p-1"]),
    ("samples", [.obj [("id", .str "s-1"), ("name", .str "bar")]]),
    ("sample2datafile", [.obj [("datafile_id", .str "f-1"), ("sample_id", .str "s-1")]])]

theorem Store.sorted_twiceLinked : twiceLinked.Sorted := sorted_filled (by decide)

theorem Store.keepsIds_twiceLinked : twiceLinked.KeepsIds :=
  ⟨by decide, by decide, by decide⟩

end LabIndex
