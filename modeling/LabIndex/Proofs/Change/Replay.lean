import LabIndex.Command.Run
import LabIndex.Proofs.Change.Following
import LabIndex.Proofs.Indexing.Taken

/-!
# Changes that are followed again

A feed may bring a change twice, and changes in any order. Which entities a change asks for depends
on the store, and so do the requests of an entity, whatever list of ids it is asked for in. Of all
requests with one key the last stays, and this is the last one that the store gives for the entity.
So on a store that stays as it is two lists with the same changes leave the same documents.

A document whose key is too long for a term is the exception: nothing ever replaces it, and each
time its entity is asked for it is there once more.

* `ChangeEvent.touched`: the entities that a change asks for;
* `Indexers.exists_log_of_runAll`: what running targets hands on, whether they fail or not;
* `Indexers.takes_of_follow`: what following changes writes, entity by entity;
* `Indexers.follow_showsSame`: the order of changes and their number do not matter;
* `Indexers.held_follow_of_long`: a document with a long key is there as often as it was asked for.
-/

namespace LabIndex

open Command (follow)
open Search (IndexDirectory upserts longTerm)

/-! ## 1. What a change asks for -/

theorem Target.ids_ne_nil_of_mem_ofIds {k : Kind} {ids : List String} {t : Target}
    (h : t ∈ Target.ofIds k ids) : t.ids ≠ [] := by
  rw [Target.ofIds] at h
  split at h
  · cases h
  · rename_i hids
    obtain rfl := List.mem_singleton.mp h
    rwa [List.isEmpty_iff] at hids

namespace ChangeEvent

variable {src : Source} {targets : List Target}

theorem ids_ne_nil_of_fileTargets {files : List String} (h : fileTargets src files = .ok targets) :
    ∀ t ∈ targets, t.ids ≠ [] := by
  rw [fileTargets, bind_eq_ok_iff] at h
  obtain ⟨samples, -, h⟩ := h
  obtain rfl := Except.ok.inj h
  intro t ht
  exact (List.mem_append.mp ht).elim Target.ids_ne_nil_of_mem_ofIds Target.ids_ne_nil_of_mem_ofIds

/-- **Every target of a plan has some ids**, so no run of a plan covers everything. -/
theorem ids_ne_nil_of_plan {e : ChangeEvent} (h : e.plan src = .ok targets) :
    ∀ t ∈ targets, t.ids ≠ [] := by
  rcases plan_cases h with ⟨n, rows, -, -, h⟩ | ⟨-, ⟨id, h⟩ | ⟨k, ids, -, rfl⟩⟩
  · exact ids_ne_nil_of_fileTargets h
  · exact ids_ne_nil_of_fileTargets h
  · exact fun t ht => Target.ids_ne_nil_of_mem_ofIds ht

/-- The entities that a change asks for, those of a plan that cannot be made being none. -/
def touched (s : Store) (e : ChangeEvent) : List (Kind × String) :=
  match e.plan (.ofStore s) with
  | .ok targets => targets.flatMap fun t => t.ids.map fun id => (t.kind, id)
  | .error _ => []

theorem touched_of_plan {s : Store} {e : ChangeEvent} (h : e.plan (.ofStore s) = .ok targets) :
    e.touched s = targets.flatMap fun t => t.ids.map fun id => (t.kind, id) := by
  rw [touched, h]

end ChangeEvent

/-! ## 2. Following changes -/

namespace Indexers

/-- Changes are followed one after another, and each time all runs are complete. -/
def FollowsAll {σ : Type} (x : Indexers) (b : Backend σ) : List ChangeEvent → σ → Prop
  | [], _ => True
  | e :: rest, state =>
    Complete (x.apply b e state).1 ∧ x.FollowsAll b rest (x.apply b e state).2

/-- Deciding it is following the changes. -/
def decideFollowsAll {σ : Type} (x : Indexers) (b : Backend σ) :
    ∀ (events : List ChangeEvent) (state : σ), Decidable (x.FollowsAll b events state)
  | [], _ => .isTrue trivial
  | _ :: rest, _ => @instDecidableAnd _ _ inferInstance (decideFollowsAll x b rest _)

instance {σ : Type} (x : Indexers) (b : Backend σ) (events : List ChangeEvent) (state : σ) :
    Decidable (x.FollowsAll b events state) := x.decideFollowsAll b events state

section Following

variable {σ : Type} {x : Indexers} {b : Backend σ} {s : Store} {state : σ}

/-- What the targets of a plan submit, entity by entity. -/
theorem requestsFor_targets {targets : List Target} (h : ∀ t ∈ targets, t.ids ≠ []) :
    ((targets.map fun t => (t.kind, Scope.ofIds t.ids)).flatMap fun r => x.requestsOf s r.1 r.2) =
      x.requestsFor s (targets.flatMap fun t => t.ids.map fun id => (t.kind, id)) := by
  rw [requestsFor, List.flatMap_map, List.flatMap_assoc]
  exact List.flatMap_congr fun t ht => requestsOf_ofIds (h t ht)

/-- Targets after one whose run gave a report start from what it left. -/
theorem runAll_cons_ok {t : Target} {after : σ} {report : Report}
    (h : x.run b t.kind (.ofIds t.ids) state = (.ok report, after)) (rest : List Target) :
    (x.runAll b (t :: rest) state).2 = (x.runAll b rest after).2 := by
  rw [runAll_eq, List.map_cons, runEach_cons_ok h, ← runAll_eq]

/-- **Targets add to what was handed on before them**, whether they fail or not, and each adds no
    more than the requests of its rows, in their order. -/
theorem exists_log_of_runAll (hx : x.source = .ofStore s) (b : Backend σ) (targets : List Target)
    (state : σ) (log : List (List Request)) :
    ∃ batches, (x.runAll b.logged targets (state, log)).2.2 = log ++ batches ∧
      batches.flatten.Sublist (targets.flatMap fun t => x.requestsOf s t.kind (.ofIds t.ids)) := by
  induction targets generalizing state log with
  | nil => exact ⟨[], (List.append_nil log).symm, List.Sublist.refl []⟩
  | cons t rest ih =>
      rw [List.flatMap_cons]
      cases hq : s.query (t.kind.query (.ofIds t.ids)) with
      | error f =>
          refine ⟨[], ?_, List.nil_sublist _⟩
          rw [runAll, run_eq_of_query_error hx hq, List.append_nil]
      | ok rows =>
          obtain ⟨report, after, batches, -, hrun, -, hbatches⟩ := run_of_query b state log hx hq
          obtain ⟨more, hmore, hrest⟩ := ih after (log ++ batches)
          refine ⟨batches ++ more, by rw [runAll_cons_ok hrun, hmore, List.append_assoc], ?_⟩
          rw [List.flatten_append, hbatches, requestsOf_of_query hq]
          exact ((x.indexing t.kind (.ofIds t.ids)).requests_sublist rows).append hrest

/-- **A change that is followed completely** has the requests of its entities taken. -/
theorem takes_of_apply (hx : x.source = .ofStore s) {e : ChangeEvent}
    (h : Complete (x.apply b e state).1) :
    b.Takes state (x.requestsFor s (e.touched s)) (x.apply b e state).2 := by
  rw [apply, hx] at h ⊢
  cases hp : e.plan (.ofStore s) with
  | error f =>
      rw [hp] at h
      obtain ⟨reports, hr, -⟩ := h
      cases hr
  | ok targets =>
      rw [hp] at h
      simp only [runAll_eq] at h ⊢
      have htakes := takes_of_runEach hx h
      rw [requestsFor_targets (ChangeEvent.ids_ne_nil_of_plan hp)] at htakes
      rwa [ChangeEvent.touched_of_plan hp]

end Following

section Engine

variable {x : Indexers} {s : Store} {n : Nat}

/-- A change that was followed is behind. -/
theorem follow_cons {e : ChangeEvent} {d : IndexDirectory}
    (rest : List ChangeEvent) :
    (follow x n (e :: rest) d).2.2 =
      (follow x n rest (x.apply (IndexDirectory.backend n) e d).2).2.2 := by
  rw [follow]
  -- whether it failed or not, the next change finds what it left
  split
  · rename_i reports after h
    rw [h]
  · rename_i f after h
    rw [h]

/-- **Changes that are followed completely** have the requests of their entities taken, change
    after change. -/
theorem takes_of_follow (hx : x.source = .ofStore s) {events : List ChangeEvent}
    {d : IndexDirectory} (h : x.FollowsAll (IndexDirectory.backend n) events d) :
    (IndexDirectory.backend n).Takes d (x.requestsFor s (events.flatMap (·.touched s)))
      (follow x n events d).2.2 := by
  induction events generalizing d with
  | nil => exact .nothing d
  | cons e rest ih =>
      rw [follow_cons, List.flatMap_cons, requestsFor, List.flatMap_append]
      exact (takes_of_apply hx h.1).append (ih h.2)

end Engine

/-! ## 3. Replays -/

section Replay

variable {x : Indexers} {s : Store}

/-- **The order and the number of changes do not matter.** On a store that stays as it is, two lists
    with the same changes that are followed completely leave an engine with the same documents under
    the same keys, from whatever state: the same list of documents under each key that is no longer
    than a term. A document with a longer key is left by both or by neither. -/
theorem follow_showsSame (hx : x.source = .ofStore s) (hs : s.Sorted) (hi : s.KeepsIds)
    {events events' : List ChangeEvent} (hsame : ∀ e, e ∈ events ↔ e ∈ events') (n : Nat)
    (d : IndexDirectory) (h : x.FollowsAll (IndexDirectory.backend n) events d)
    (h' : x.FollowsAll (IndexDirectory.backend n) events' d) :
    IndexDirectory.ShowsSame n (follow x n events d).2.2 (follow x n events' d).2.2 := by
  have htouched : ∀ e, e ∈ events.flatMap (·.touched s) ↔ e ∈ events'.flatMap (·.touched s) := by
    intro e
    simp only [List.mem_flatMap, hsame]
  have hmem : ∀ r, r ∈ x.requestsFor s (events.flatMap (·.touched s)) ↔
      r ∈ x.requestsFor s (events'.flatMap (·.touched s)) := by
    intro r
    rw [requestsFor, requestsFor, List.mem_flatMap, List.mem_flatMap]
    exact exists_congr fun e => and_congr_left fun _ => htouched e
  have hlast : upserts (x.requestsFor s (events.flatMap (·.touched s))) =
      upserts (x.requestsFor s (events'.flatMap (·.touched s))) :=
    upserts_requestsFor_congr hs hi htouched
  refine (IndexDirectory.showsSame_iff_of_takes (takes_of_follow hx h) (takes_of_follow hx h')
    hmem).mpr fun r _ _ => ?_
  rw [hlast]

theorem follow_showsSame_twiceLinked :
    (onStore .twiceLinked).source = .ofStore .twiceLinked ∧ Store.twiceLinked.Sorted ∧
      Store.twiceLinked.KeepsIds ∧
      (∀ e, e ∈ [ChangeEvent.file "f-1", .project "p-1", .sample "s-1"] ↔
        e ∈ [ChangeEvent.sample "s-1", .file "f-1", .project "p-1", .file "f-1"]) ∧
      (onStore .twiceLinked).FollowsAll (IndexDirectory.backend 0)
        [.file "f-1", .project "p-1", .sample "s-1"] IndexDirectory.single ∧
      (onStore .twiceLinked).FollowsAll (IndexDirectory.backend 0)
        [.sample "s-1", .file "f-1", .project "p-1", .file "f-1"] IndexDirectory.single ∧
      IndexDirectory.ShowsSame 0
        (follow (onStore .twiceLinked) 0 [.file "f-1", .project "p-1", .sample "s-1"]
          IndexDirectory.single).2.2
        (follow (onStore .twiceLinked) 0
          [.sample "s-1", .file "f-1", .project "p-1", .file "f-1"] IndexDirectory.single).2.2 := by
  have hsame : ∀ e, e ∈ [ChangeEvent.file "f-1", .project "p-1", .sample "s-1"] ↔
      e ∈ [ChangeEvent.sample "s-1", .file "f-1", .project "p-1", .file "f-1"] := by
    intro e
    simp only [List.mem_cons, List.not_mem_nil, or_false]
    tauto
  have h : (onStore .twiceLinked).FollowsAll (IndexDirectory.backend 0)
      [.file "f-1", .project "p-1", .sample "s-1"] IndexDirectory.single := by decide +kernel
  have h' : (onStore .twiceLinked).FollowsAll (IndexDirectory.backend 0)
      [.sample "s-1", .file "f-1", .project "p-1", .file "f-1"] IndexDirectory.single := by
    decide +kernel
  exact ⟨rfl, Store.sorted_twiceLinked, Store.keepsIds_twiceLinked, hsame, h, h',
    follow_showsSame rfl Store.sorted_twiceLinked Store.keepsIds_twiceLinked hsame 0
      IndexDirectory.single h h'⟩

/-- **What is under a key that is too long for a term** after changes were followed: what was there,
    and the requests of the entity as often as it was asked for. -/
theorem held_follow_of_long (hx : x.source = .ofStore s) (hs : s.Sorted) (hi : s.KeepsIds)
    {events : List ChangeEvent} {n : Nat} {d : IndexDirectory} (hq : d.queued = [])
    (h : x.FollowsAll (IndexDirectory.backend n) events d) {e : Kind × String}
    (hlong : longTerm < (x.uidOf e).utf8ByteSize) :
    (follow x n events d).2.2.published.held (x.uidOf e) =
      d.published.held (x.uidOf e) ++
        (List.replicate ((events.flatMap (·.touched s)).count e)
          (x.requestsAt s e.1 e.2)).flatten := by
  rw [← filter_requestsFor hs hi]
  rcases IndexDirectory.written_of_takes (takes_of_follow hx h) with ⟨hnone, hd⟩ | ⟨-, hw⟩
  · rw [hnone, hd, List.filter_nil, List.append_nil]
  · rw [hw.published, hq]
    exact Search.Index.held_applyAll_operations_of_long _ _ hlong

end Replay

end Indexers

/-! ## 4. A long key -/

/-- Changes whose runs all read everything are followed completely by an engine that may write. -/
theorem Indexers.followsAll_of_mayWrite {x : Indexers} {s : Store} {n : Nat}
    (hx : x.source = .ofStore s) {events : List ChangeEvent}
    (hr : ∀ e ∈ events, ∃ targets, e.plan (.ofStore s) = .ok targets ∧ ∀ t ∈ targets,
      ∀ d : IndexDirectory, x.ReadsAll (IndexDirectory.backend n) t.kind (.ofIds t.ids) d)
    {d : IndexDirectory} (h : d.writeFailure? n = none) :
    x.FollowsAll (IndexDirectory.backend n) events d := by
  induction events generalizing d with
  | nil => trivial
  | cons e rest ih =>
      obtain ⟨targets, hp, ht⟩ := hr e List.mem_cons_self
      have happly : x.apply (IndexDirectory.backend n) e d =
          x.runEach (IndexDirectory.backend n)
            (targets.map fun t => (t.kind, Scope.ofIds t.ids)) d := by
        rw [apply, hx, hp]
        exact runAll_eq ..
      have hruns : ∀ r ∈ targets.map fun t => (t.kind, Scope.ofIds t.ids),
          ∀ d : IndexDirectory, x.ReadsAll (IndexDirectory.backend n) r.1 r.2 d := by
        intro r hm
        obtain ⟨t, hmem, rfl⟩ := List.mem_map.mp hm
        exact ht t hmem
      obtain ⟨hc, hmay⟩ := complete_of_mayWrite hx hruns h
      rw [FollowsAll, happly]
      exact ⟨hc, ih (fun e hm => hr e (List.mem_cons_of_mem _ hm)) hmay⟩

namespace Store

/-- An id that is too long for a term. -/
def longId : String := String.ofList (List.replicate 65531 'a')

theorem utf8ByteSize_replicate (n : Nat) :
    (String.ofList (List.replicate n 'a')).utf8ByteSize = n := by
  induction n with
  | zero => rfl
  | succ n ih =>
      have hone : 'a'.utf8Size = 1 := by decide
      rw [List.replicate_succ, String.ofList_cons, String.utf8ByteSize_append,
        String.utf8ByteSize_singleton, ih, hone, Nat.add_comm]

theorem utf8ByteSize_longId : longId.utf8ByteSize = 65531 := utf8ByteSize_replicate 65531

/-- A project with such an id. -/
def longNamed : Store := filled [("projects", [.obj [("id", .str longId)]])]

end Store

namespace Indexers

open Store (longId longNamed)

/-- The project makes one request. -/
theorem exists_request_longNamed :
    ∃ r, (onStore longNamed).request? longNamed .project (.obj [("id", .str longId)]) = some r ∧
      (onStore longNamed).requestsAt longNamed .project longId = [r] := by
  have hkey : (Json.obj [("id", .str longId)]).key "id" = some longId := rfl
  have hrows : Store.withKey "id" longId [.obj [("id", .str longId)]] =
      [.obj [("id", .str longId)]] := by
    rw [Store.withKey, List.filter_singleton, hkey, beq_self_eq_true, cond_true]
  have hat : (onStore longNamed).requestsAt longNamed .project longId =
      ((Store.withKey "id" longId [.obj [("id", .str longId)]]).flatMap
        (longNamed.expand .project)).filterMap ((onStore longNamed).request? longNamed .project) :=
    rfl
  refine ⟨_, rfl, ?_⟩
  rw [hat, hrows]
  rfl

theorem readsAll_longNamed {n : Nat} (d : IndexDirectory) :
    (onStore longNamed).ReadsAll (IndexDirectory.backend n) .project (.ofIds [longId]) d := by
  have hhas : longNamed.Has .project := by
    unfold Store.Has
    decide
  rw [readsAll_iff rfl hhas]
  intro row hrow
  rw [Store.rowsOf_of_plain rfl, Store.members, Scope.ids?_ofIds (by simp)] at hrow
  obtain ⟨id, -, hrow⟩ := List.mem_flatMap.mp hrow
  have hmem : row ∈ [Json.obj [("id", .str longId)]] := (Store.mem_withKey.mp hrow).1
  rw [List.mem_singleton.mp hmem]
  obtain ⟨r, hr, -⟩ := exists_request_longNamed
  exact ⟨r, hr⟩

theorem longTerm_lt_uidOf_longId (x : Indexers) (k : Kind) :
    longTerm < (x.uidOf (k, longId)).utf8ByteSize := by
  have hlong : longTerm < longId.utf8ByteSize := by
    rw [Store.utf8ByteSize_longId]
    decide
  exact Nat.lt_of_lt_of_le hlong (x.utf8ByteSize_le_uidOf k longId)

theorem sorted_longNamed : longNamed.Sorted := Store.sorted_filled (by decide)

theorem keepsIds_longNamed : longNamed.KeepsIds := ⟨by decide, by decide, by decide⟩

/-- An engine on an empty index follows changes of the project, and has a document of it for each of
    them then. -/
theorem follow_longNamed {events : List ChangeEvent} (h : ∀ e ∈ events, e = .project longId) :
    (onStore longNamed).FollowsAll (IndexDirectory.backend 0) events IndexDirectory.single ∧
      ((follow (onStore longNamed) 0 events IndexDirectory.single).2.2.published.held
        ((onStore longNamed).uidOf (.project, longId))).length = events.length := by
  obtain ⟨times, rfl⟩ : ∃ times, events = List.replicate times (.project longId) :=
    ⟨_, List.eq_replicate_of_mem h⟩
  have hall : (onStore longNamed).FollowsAll (IndexDirectory.backend 0)
      (List.replicate times (.project longId)) IndexDirectory.single := by
    refine followsAll_of_mayWrite rfl (fun e he => ?_) IndexDirectory.mayWrite_single
    obtain rfl := h e he
    refine ⟨[⟨.project, [longId]⟩], rfl, fun t ht d => ?_⟩
    obtain rfl := List.mem_singleton.mp ht
    exact readsAll_longNamed d
  refine ⟨hall, ?_⟩
  have htouched : ChangeEvent.touched longNamed (.project longId) = [(.project, longId)] := rfl
  have hnone : IndexDirectory.single.published = [] := rfl
  obtain ⟨r, -, hr⟩ := exists_request_longNamed
  rw [held_follow_of_long rfl sorted_longNamed keepsIds_longNamed rfl hall
    (longTerm_lt_uidOf_longId _ _), hr, List.flatMap_replicate, htouched,
    List.flatten_replicate_singleton, List.flatten_replicate_singleton, List.count_replicate_self,
    hnone]
  simp [Search.Index.held]

/-- **Followed once or twice, the change of a project with a long id does not leave the same
    documents** under the key of the project: one the first time, and one more the second time. -/
theorem follow_longNamed_ne :
    (onStore longNamed).source = .ofStore longNamed ∧ longNamed.Sorted ∧ longNamed.KeepsIds ∧
      (∀ e, e ∈ [ChangeEvent.project longId] ↔
        e ∈ [ChangeEvent.project longId, .project longId]) ∧
      (onStore longNamed).FollowsAll (IndexDirectory.backend 0) [.project longId]
        IndexDirectory.single ∧
      (onStore longNamed).FollowsAll (IndexDirectory.backend 0) [.project longId, .project longId]
        IndexDirectory.single ∧
      (follow (onStore longNamed) 0 [.project longId]
          IndexDirectory.single).2.2.published.held
            ((onStore longNamed).uidOf (.project, longId)) ≠
        (follow (onStore longNamed) 0 [.project longId, .project longId]
          IndexDirectory.single).2.2.published.held
            ((onStore longNamed).uidOf (.project, longId)) := by
  obtain ⟨honce, hone⟩ := follow_longNamed (List.forall_mem_singleton.mpr rfl)
  obtain ⟨htwice, htwo⟩ :=
    follow_longNamed (List.forall_mem_cons.mpr ⟨rfl, List.forall_mem_singleton.mpr rfl⟩)
  refine ⟨rfl, sorted_longNamed, keepsIds_longNamed, fun e => ?_, honce, htwice, fun h => ?_⟩
  · rw [List.mem_singleton, List.mem_pair, or_self]
  · rw [h, htwo] at hone
    exact absurd hone (by decide)

end Indexers

end LabIndex
