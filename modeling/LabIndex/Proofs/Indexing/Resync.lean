import LabIndex.Proofs.Indexing.Taken

/-!
# Running some entities again

On a store that stays as it is, some entities of a kind are run again after a rebuild. The run makes
no request that the rebuild did not make, but it need not make them in the same order: a rebuild goes
from project to project, the other run through the links as they lie in their table. Of requests with
one key the last stays. So an entity in one project keeps its document, and one in several projects
may change it.

* `Indexers.mem_requestsOf_all`: the requests of some ids are among those of all rows;
* `Indexers.resync_showsSame_iff`: the documents stay as they are exactly where the last requests
  under the keys of the run agree with those of the rebuild;
* `Indexers.resync_showsSame_of_linkedOnce`: so they do for entities that are linked once;
* `Indexers.resync_twiceLinked_ne`: a sample in two projects that changes its project.
-/

namespace LabIndex

open Search (IndexDirectory upserts longTerm)

namespace Indexers

/-! ## 1. The requests of a rebuild -/

/-- The requests of a rebuild, kind by kind. -/
def allRequests (x : Indexers) (s : Store) : List Request :=
  Kind.all.flatMap fun k => x.requestsOf s k .all

/-- A run ended, and is complete. -/
def CompleteRun (answer : Except Failure Report) : Prop :=
  ∃ report, answer = .ok report ∧ report.isComplete = true

instance : DecidablePred CompleteRun
  | .ok report =>
    decidable_of_iff (report.isComplete = true)
      ⟨fun h => ⟨report, rfl, h⟩, fun ⟨_, h, hc⟩ => Except.ok.inj h ▸ hc⟩
  | .error _ => .isFalse fun ⟨_, h, _⟩ => nomatch h

section Requests

variable {x : Indexers} {s : Store} {k : Kind} {ids : List String} {r : Request}

theorem takes_of_completeRun {σ : Type} {b : Backend σ} {scope : Scope} {state : σ}
    (hx : x.source = .ofStore s) (h : CompleteRun (x.run b k scope state).1) :
    b.Takes state (x.requestsOf s k scope) (x.run b k scope state).2 := by
  obtain ⟨report, hr, hc⟩ := h
  exact takes_of_run hx (Prod.ext hr rfl) hc

/-- **The requests for some ids are among those of all rows.** -/
theorem mem_requestsOf_all (hs : s.Sorted) (hl : s.LinksOneProject k) (hne : ids ≠ [])
    (h : r ∈ x.requestsOf s k (.ofIds ids)) : r ∈ x.requestsOf s k .all := by
  rw [requestsOf_ofIds hne] at h
  obtain ⟨e, he, h⟩ := List.mem_flatMap.mp h
  obtain ⟨id, -, rfl⟩ := List.mem_map.mp he
  obtain ⟨row, hrow, hr⟩ := List.mem_filterMap.mp h
  obtain ⟨m, hm, hrow⟩ := List.mem_flatMap.mp hrow
  refine List.mem_filterMap.mpr ⟨row, ?_, hr⟩
  rw [(Store.rowsOf_all_perm hs hl).mem_iff]
  exact List.mem_flatMap.mpr ⟨m, (Store.mem_withKey.mp hm).1, hrow⟩

theorem mem_allRequests (h : r ∈ x.requestsOf s k .all) : r ∈ x.allRequests s :=
  List.mem_flatMap.mpr ⟨k, Kind.mem_all k, h⟩

/-- **Under a key of a kind the last request of a rebuild is the last one of the kind**: the others
    have other keys. -/
theorem upserts_allRequests {scope : Scope} (h : r ∈ x.requestsOf s k scope) :
    upserts (x.allRequests s) r.uid = upserts (x.requestsOf s k .all) r.uid := by
  have hother : ∀ l, l ≠ k → (x.requestsOf s l .all).filter (·.uid = r.uid) = [] := by
    intro l hl
    refine List.filter_eq_nil_iff.mpr fun t ht hu => ?_
    have huid : x.uidOf (l, t.id) = x.uidOf (k, r.id) := by
      rw [← uid_of_mem_requestsOf ht, ← uid_of_mem_requestsOf h]
      exact of_decide_eq_true hu
    exact hl (congrArg Prod.fst (x.uidOf_injective huid))
  rw [Search.upserts_eq_getLast?, Search.upserts_eq_getLast?, allRequests, List.filter_flatMap]
  congr 1
  cases k <;> simp [Kind.all, hother]

end Requests

/-! ## 2. What a run changes after a rebuild -/

section Resync

variable {x : Indexers} {s : Store} {k : Kind} {ids : List String} {n : Nat} {d : IndexDirectory}

/-- **After a rebuild, a run over some ids leaves the documents as they are exactly where its last
    request under each key is the last one of the rebuild.** Keys that are too long for a term are
    left out: nothing under them is ever replaced. -/
theorem resync_showsSame_iff (hx : x.source = .ofStore s) (hs : s.Sorted)
    (hl : s.LinksOneProject k) (hne : ids ≠ [])
    (hfull : Complete (x.rebuild (IndexDirectory.backend n) d).1)
    (hrun : CompleteRun (x.run (IndexDirectory.backend n) k (.ofIds ids)
      (x.rebuild (IndexDirectory.backend n) d).2).1) :
    IndexDirectory.ShowsSame n (x.rebuild (IndexDirectory.backend n) d).2
        (x.run (IndexDirectory.backend n) k (.ofIds ids)
          (x.rebuild (IndexDirectory.backend n) d).2).2 ↔
      ∀ r ∈ x.requestsOf s k (.ofIds ids), r.uid.utf8ByteSize ≤ longTerm →
        upserts (x.requestsOf s k (.ofIds ids)) r.uid =
          upserts (x.requestsOf s k .all) r.uid := by
  have hF : (IndexDirectory.backend n).Takes d (x.allRequests s)
      (x.rebuild (IndexDirectory.backend n) d).2 := takes_of_rebuild hx hfull
  have hG := takes_of_completeRun hx hrun
  have hsub : ∀ r ∈ x.requestsOf s k (.ofIds ids), r ∈ x.allRequests s := fun r hr =>
    mem_allRequests (mem_requestsOf_all hs hl hne hr)
  have hmem : ∀ r, r ∈ x.allRequests s ↔
      r ∈ x.allRequests s ++ x.requestsOf s k (.ofIds ids) := by
    intro r
    rw [List.mem_append]
    exact ⟨.inl, fun h => h.elim id (hsub r)⟩
  have hboth : ∀ uid, upserts (x.allRequests s ++ x.requestsOf s k (.ofIds ids)) uid =
      (upserts (x.requestsOf s k (.ofIds ids)) uid).or (upserts (x.allRequests s) uid) :=
    Search.upserts_append _ _
  rw [IndexDirectory.showsSame_iff_of_takes hF (hF.append hG) hmem]
  constructor
  · intro h r hr hu
    obtain ⟨last, hlast⟩ := Search.Index.exists_upserts_of_mem hr
    have hkept := h r (hsub r hr) hu
    rw [hboth, hlast, Option.some_or, upserts_allRequests hr] at hkept
    rw [hlast, hkept]
  · intro h r _ hu
    rw [hboth]
    cases hlast : upserts (x.requestsOf s k (.ofIds ids)) r.uid with
    | none => rfl
    | some last =>
        obtain ⟨hmem, huid⟩ := Search.mem_of_upserts hlast
        rw [← huid] at hu hlast ⊢
        rw [Option.some_or, upserts_allRequests hmem, ← h last hmem hu, hlast]

/-- Of the requests of all rows, those of an entity that is linked once are its own in the order in
    which a run over its id makes them. -/
theorem filter_requestsOf_all (h : s.Regular k) {id : String}
    (hone : (Store.withKey k.memberColumn id (s.table k.memberTable)).length ≤ 1) :
    (x.requestsOf s k .all).filter (·.uid = x.uidOf (k, id)) = x.requestsAt s k id := by
  obtain ⟨members, hperm, hrows⟩ := Store.exists_rowsOf_all h.sorted h.linksOneProject
  have hblock : ∀ m ∈ members,
      ((s.expand k m).filterMap (x.request? s k)).filter (·.uid = x.uidOf (k, id)) =
        if m.key k.memberColumn == some id then (s.expand k m).filterMap (x.request? s k)
        else [] := by
    intro m hm
    have htable := hperm.mem_iff.mp hm
    have huid : ∀ r ∈ (s.expand k m).filterMap (x.request? s k),
        r.uid = x.uidOf (k, id) ↔ m.key k.memberColumn = some id := by
      intro r hr
      obtain ⟨row, hrow, hr⟩ := List.mem_filterMap.mp hr
      have hid := key_of_request? h.sorted (h.keepsIds.keepsId k) (h.namesColumns.ne_arr htable) hrow hr
      rw [uid_of_request? hr, x.uidOf_injective.eq_iff, hid, Prod.mk.injEq, Option.some.injEq]
      exact and_iff_right rfl
    by_cases hkey : m.key k.memberColumn = some id
    · rw [if_pos (beq_iff_eq.mpr hkey), List.filter_eq_self]
      exact fun r hr => decide_eq_true ((huid r hr).mpr hkey)
    · rw [if_neg (by simpa using hkey), List.filter_eq_nil_iff]
      exact fun r hr e => hkey ((huid r hr).mp (of_decide_eq_true e))
  -- a list of at most one element has no other order
  have hnames : (members.filter fun m => m.key k.memberColumn == some id) =
      Store.withKey k.memberColumn id (s.table k.memberTable) := by
    have hp : (members.filter fun m => m.key k.memberColumn == some id).Perm
        (Store.withKey k.memberColumn id (s.table k.memberTable)) := hperm.filter _
    match hw : Store.withKey k.memberColumn id (s.table k.memberTable), hone with
    | [], _ => rwa [hw, List.perm_nil] at hp
    | [m], _ => rwa [hw, List.perm_singleton] at hp
  rw [requestsOf, hrows, List.filterMap_flatMap, filter_flatMap_eq hblock, hnames, requestsAt,
    List.filterMap_flatMap]

/-- **After a rebuild, running entities again that are linked once each leaves every document as it
    is.** -/
theorem resync_showsSame_of_linkedOnce (hx : x.source = .ofStore s) (h : s.Regular k)
    (hne : ids ≠ [])
    (hone : ∀ id ∈ ids, (Store.withKey k.memberColumn id (s.table k.memberTable)).length ≤ 1)
    (hfull : Complete (x.rebuild (IndexDirectory.backend n) d).1)
    (hrun : CompleteRun (x.run (IndexDirectory.backend n) k (.ofIds ids)
      (x.rebuild (IndexDirectory.backend n) d).2).1) :
    IndexDirectory.ShowsSame n (x.rebuild (IndexDirectory.backend n) d).2
      (x.run (IndexDirectory.backend n) k (.ofIds ids)
        (x.rebuild (IndexDirectory.backend n) d).2).2 := by
  refine (resync_showsSame_iff hx h.sorted h.linksOneProject hne hfull hrun).mpr fun r hr _ => ?_
  rw [requestsOf_ofIds hne] at hr ⊢
  obtain ⟨e, he, hat⟩ := List.mem_flatMap.mp hr
  obtain ⟨id, hid, rfl⟩ := List.mem_map.mp he
  rw [uid_of_mem_requestsAt h.sorted h.keepsIds (k, id) r hat,
    upserts_requestsFor h.sorted h.keepsIds he, Search.upserts_eq_getLast?,
    filter_requestsOf_all h (hone id hid)]

end Resync

/-! ## 3. A sample in two projects -/

theorem linksOneProject_twiceLinked (k : Kind) : Store.twiceLinked.LinksOneProject k := by
  unfold Store.LinksOneProject
  cases k <;> decide

theorem complete_twiceLinked :
    Complete ((onStore .twiceLinked).rebuild (IndexDirectory.backend 0) IndexDirectory.single).1 ∧
      CompleteRun ((onStore .twiceLinked).run (IndexDirectory.backend 0) .sample (.ofIds ["s-1"])
        ((onStore .twiceLinked).rebuild (IndexDirectory.backend 0) IndexDirectory.single).2).1 := by
  decide +kernel

theorem resync_showsSame_iff_twiceLinked :
    (onStore .twiceLinked).source = .ofStore .twiceLinked ∧ Store.twiceLinked.Sorted ∧
      Store.twiceLinked.LinksOneProject .sample ∧ ["s-1"] ≠ [] ∧
      Complete ((onStore .twiceLinked).rebuild (IndexDirectory.backend 0)
        IndexDirectory.single).1 ∧
      CompleteRun ((onStore .twiceLinked).run (IndexDirectory.backend 0) .sample (.ofIds ["s-1"])
        ((onStore .twiceLinked).rebuild (IndexDirectory.backend 0) IndexDirectory.single).2).1 ∧
      (IndexDirectory.ShowsSame 0
          ((onStore .twiceLinked).rebuild (IndexDirectory.backend 0) IndexDirectory.single).2
          ((onStore .twiceLinked).run (IndexDirectory.backend 0) .sample (.ofIds ["s-1"])
            ((onStore .twiceLinked).rebuild (IndexDirectory.backend 0)
              IndexDirectory.single).2).2 ↔
        ∀ r ∈ (onStore .twiceLinked).requestsOf .twiceLinked .sample (.ofIds ["s-1"]),
          r.uid.utf8ByteSize ≤ longTerm →
            upserts ((onStore .twiceLinked).requestsOf .twiceLinked .sample (.ofIds ["s-1"]))
                r.uid =
              upserts ((onStore .twiceLinked).requestsOf .twiceLinked .sample .all) r.uid) := by
  obtain ⟨hfull, hrun⟩ := complete_twiceLinked
  exact ⟨rfl, Store.sorted_twiceLinked, linksOneProject_twiceLinked .sample, by decide, hfull, hrun,
    resync_showsSame_iff rfl Store.sorted_twiceLinked (linksOneProject_twiceLinked .sample)
      (by decide) hfull hrun⟩

/-- **A sample in two projects changes its project when it is run again**: the rebuild comes to it
    last by the project that is last, the run by the link that is last. -/
theorem resync_twiceLinked_ne :
    Store.twiceLinked.Sorted ∧ (∀ k, Store.twiceLinked.Has k) ∧ Store.twiceLinked.KeepsIds ∧
      (∀ k, Store.twiceLinked.LinksOneProject k) ∧ (∀ k, Store.twiceLinked.NamesColumns k) ∧
      Complete ((onStore .twiceLinked).rebuild (IndexDirectory.backend 0)
        IndexDirectory.single).1 ∧
      CompleteRun ((onStore .twiceLinked).run (IndexDirectory.backend 0) .sample (.ofIds ["s-1"])
        ((onStore .twiceLinked).rebuild (IndexDirectory.backend 0) IndexDirectory.single).2).1 ∧
      (((onStore .twiceLinked).rebuild (IndexDirectory.backend 0)
          IndexDirectory.single).2.view 0).held "mc/sample/s-1" ≠
        (((onStore .twiceLinked).run (IndexDirectory.backend 0) .sample (.ofIds ["s-1"])
          ((onStore .twiceLinked).rebuild (IndexDirectory.backend 0)
            IndexDirectory.single).2).2.view 0).held "mc/sample/s-1" := by
  refine ⟨Store.sorted_twiceLinked, ?_, Store.keepsIds_twiceLinked, linksOneProject_twiceLinked, ?_,
    complete_twiceLinked.1, complete_twiceLinked.2, fun h => ?_⟩
  · intro k
    unfold Store.Has
    cases k <;> decide
  · intro k
    unfold Store.NamesColumns
    cases k <;> decide
  · have hproject := congrArg
      (List.map fun r : Request => (r.document.get? "project_id").bind Json.text?) h
    exact absurd hproject (by decide +kernel)

end Indexers

end LabIndex
