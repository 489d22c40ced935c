import LabIndex.Proofs.Change.Following
import LabIndex.Proofs.Change.Replay

/-!
# Rows that are deleted

The change of a row that was deleted is followed like any other: the entity is run again. The rows
that make its documents are gone, so the run makes no request for it; and a request is all that an
engine is ever given. What was under the key of the entity is left there.

* `IndexDirectory.held_ne_nil_of_takes`: no requests whatever remove a key;
* `Indexers.requestsAt_eq_nil_of_gone`: an entity without a row makes no requests;
* `Indexers.held_follow_of_gone`: changes that are followed without the row leave its documents alone;
* `Indexers.deletion_keeps_documents`: so does the change of the deletion itself;
* `Indexers.deletion_count_ne_zero`: a project that is still found after it was deleted.
-/

namespace LabIndex

open Command (follow)
open Search (IndexDirectory)

/-! ## 1. What requests cannot remove -/

namespace Search

variable {uid : String}

/-- A key that is there stays there, whatever is written. -/
theorem Index.held_applyAll_operations_ne_nil {x : Index} (requests : List Request)
    (h : x.held uid ≠ []) : (x.applyAll (operations requests)).held uid ≠ [] := by
  by_cases hu : uid.utf8ByteSize ≤ longTerm
  · rw [Index.held_applyAll_operations x requests hu]
    cases upserts requests uid with
    | none => exact h
    | some r => exact List.cons_ne_nil r []
  · rw [Index.held_applyAll_operations_of_long x requests (by omega)]
    exact List.append_ne_nil_of_left_ne_nil h _

namespace IndexDirectory

variable {d after : IndexDirectory} {n : Nat} {requests : List Request}

/-- **No requests remove a key**: once a document is under it, there is one for good. -/
theorem held_ne_nil_of_takes (hq : d.queued = []) (h : (backend n).Takes d requests after)
    (hd : d.published.held uid ≠ []) : after.published.held uid ≠ [] := by
  rcases written_of_takes h with ⟨-, rfl⟩ | ⟨-, hw⟩
  · exact hd
  · rw [hw.published, hq]
    exact Index.held_applyAll_operations_ne_nil requests hd

/-- Requests that have none with a key leave what is under it alone, in the index and for an engine
    that sees the index as it is. -/
theorem held_of_takes_of_forall_ne (hq : d.queued = []) (h : (backend n).Takes d requests after)
    (hne : ∀ r ∈ requests, r.uid ≠ uid) :
    after.published.held uid = d.published.held uid ∧
      (d.view n = d.published → (after.view n).held uid = (d.view n).held uid) := by
  rcases written_of_takes h with ⟨-, rfl⟩ | ⟨-, hw⟩
  · exact ⟨rfl, fun _ => rfl⟩
  · have hheld : after.published.held uid = d.published.held uid := by
      rw [hw.published, hq]
      exact Index.held_applyAll_operations_of_forall_ne _ hne
    refine ⟨hheld, fun hview => ?_⟩
    rw [hw.view, hview, hheld]

end IndexDirectory

end Search

/-! ## 2. Entities without a row -/

/-- No row of a kind's own table has an id. -/
def Store.Gone (s : Store) (k : Kind) (id : String) : Prop :=
  ∀ row ∈ s.table k.entityTable, row.key "id" ≠ some id

namespace Indexers

section Gone

variable {x : Indexers} {s : Store} {k : Kind} {id : String}

/-- **A member is followed to rows only where the entity that it names has one.** -/
theorem exists_entity_of_mem_expand (hs : s.Sorted) (hi : s.KeepsIds) {m row : Json}
    (hm : m ∈ s.table k.memberTable) (hkey : m.key k.memberColumn = some id)
    (hrow : row ∈ s.expand k m) : ∃ e ∈ s.table k.entityTable, e.key "id" = some id := by
  have hjoined : ∀ {field table : String} {left : Json}, row ∈ s.joined field table "id" left →
      left.key field = some id → ∃ e ∈ s.table table, e.key "id" = some id := by
    intro field table left hr hl
    obtain ⟨key, hl', e, he, hkey, -⟩ := Store.exists_of_mem_joinedWith hr
    exact ⟨e, he, hkey.trans (hl'.symm.trans hl)⟩
  cases k with
  | file =>
      -- from the link to its directory, and from there to the file
      obtain ⟨link, hlink, hrow⟩ := List.mem_flatMap.mp hrow
      obtain ⟨dir, hdir, hrow⟩ := List.mem_flatMap.mp hrow
      exact hjoined hrow ((Store.key_of_mem_directories hs (hi.keepsId .file) hlink hdir).trans hkey)
  | sample => exact hjoined hrow hkey
  | process => exact hjoined hrow hkey
  | project | user => exact ⟨m, hm, hkey⟩

/-- **An entity without a row makes no requests**, whatever links to it are left. -/
theorem requestsAt_eq_nil_of_gone (hs : s.Sorted) (hi : s.KeepsIds) (h : s.Gone k id) :
    x.requestsAt s k id = [] := by
  rw [requestsAt, List.filterMap_eq_nil_iff]
  intro row hrow
  obtain ⟨m, hm, hrow⟩ := List.mem_flatMap.mp hrow
  obtain ⟨htable, hkey⟩ := Store.mem_withKey.mp hm
  obtain ⟨e, he, hid⟩ := exists_entity_of_mem_expand hs hi htable hkey hrow
  exact absurd hid (h e he)

theorem uid_ne_of_gone (hs : s.Sorted) (hi : s.KeepsIds) (h : s.Gone k id)
    (entities : List (Kind × String)) :
    ∀ r ∈ x.requestsFor s entities, r.uid ≠ x.uidOf (k, id) := by
  have hnone : (x.requestsFor s entities).filter (·.uid = x.uidOf (k, id)) = [] := by
    rw [filter_requestsFor hs hi, requestsAt_eq_nil_of_gone hs hi h,
      List.flatten_replicate_nil]
  intro r hr hu
  exact List.filter_eq_nil_iff.mp hnone r hr (decide_eq_true hu)

/-! ## 3. Deletions -/

/-- Changes that are followed on a store without the row of an entity leave its documents alone. -/
theorem held_follow_of_gone (hx : x.source = .ofStore s) (hs : s.Sorted) (hi : s.KeepsIds)
    (hgone : s.Gone k id) {events : List ChangeEvent} {n : Nat} {d : IndexDirectory}
    (hq : d.queued = []) (h : x.FollowsAll (IndexDirectory.backend n) events d) :
    (follow x n events d).2.2.published.held (x.uidOf (k, id)) =
      d.published.held (x.uidOf (k, id)) :=
  (IndexDirectory.held_of_takes_of_forall_ne hq (takes_of_follow hx h)
    (uid_ne_of_gone hs hi hgone _)).1

/-- **A deletion leaves the documents of what was deleted.** An entry of a feed for a row that was
    deleted, its id known from the row before, gives a change; and where this is followed completely
    on a store without the row, there are the same documents under the key of the entity as before,
    in the index and for the engine. -/
theorem deletion_keeps_documents (hx : x.source = .ofStore s) (hs : s.Sorted) (hi : s.KeepsIds)
    {old : Json} (hold : old.get? "id" = some (.str id)) (hne : id ≠ "") (hgone : s.Gone k id) :
    ∃ e, FeedEntry.event? ⟨k.entityTable, old, .null⟩ = some e ∧
      ∀ (n : Nat) (d : IndexDirectory), d.queued = [] →
        Complete (x.apply (IndexDirectory.backend n) e d).1 →
        (x.apply (IndexDirectory.backend n) e d).2.published.held (x.uidOf (k, id)) =
            d.published.held (x.uidOf (k, id)) ∧
          (d.view n = d.published →
            ((x.apply (IndexDirectory.backend n) e d).2.view n).held (x.uidOf (k, id)) =
              (d.view n).held (x.uidOf (k, id))) := by
  refine ⟨.ofEntity k id, ChangeEvent.ofFeed?_entityTable hold hne .null, fun n d hq h => ?_⟩
  exact IndexDirectory.held_of_takes_of_forall_ne hq (takes_of_apply hx h)
    (uid_ne_of_gone hs hi hgone _)

end Gone

/-- A project that is deleted. -/
def deletedProject : Json := .obj [("id", .str "p-1"), ("name", .str "alloy")]

/-- An engine that has indexed the project. -/
def withProject : IndexDirectory :=
  ((onStore (.filled [("projects", [deletedProject])])).rebuild (IndexDirectory.backend 0)
    IndexDirectory.single).2

theorem complete_withProject :
    Complete ((onStore (.filled [("projects", [deletedProject])])).rebuild
      (IndexDirectory.backend 0) IndexDirectory.single).1 := by decide +kernel

/-- The engine sees the index as it is, and has nothing queued. -/
theorem settled_withProject : withProject.queued = [] ∧ withProject.view 0 = withProject.published := by
  rcases IndexDirectory.written_of_takes (takes_of_rebuild rfl complete_withProject) with
    ⟨-, hd⟩ | ⟨-, hw⟩
  · rw [withProject, hd]
    exact ⟨rfl, rfl⟩
  · exact ⟨hw.queued, hw.view⟩

theorem gone_deletedProject : (Store.filled []).Gone .project "p-1" := by
  unfold Store.Gone
  decide

theorem complete_deletedProject :
    Complete ((onStore (.filled [])).apply (IndexDirectory.backend 0) (.project "p-1")
      withProject).1 := by decide +kernel

theorem deletion_keeps_deletedProject :
    (onStore (.filled [])).source = .ofStore (.filled []) ∧ (Store.filled []).Sorted ∧
      (Store.filled []).KeepsIds ∧ deletedProject.get? "id" = some (.str "p-1") ∧ "p-1" ≠ "" ∧
      (Store.filled []).Gone .project "p-1" ∧ withProject.queued = [] ∧
      withProject.view 0 = withProject.published ∧
      ∃ e, FeedEntry.event? ⟨"projects", deletedProject, .null⟩ = some e ∧
        Complete ((onStore (.filled [])).apply (IndexDirectory.backend 0) e withProject).1 ∧
        (((onStore (.filled [])).apply (IndexDirectory.backend 0) e withProject).2.published.held
            ((onStore (.filled [])).uidOf (.project, "p-1")) =
          withProject.published.held ((onStore (.filled [])).uidOf (.project, "p-1")) ∧
        (((onStore (.filled [])).apply (IndexDirectory.backend 0) e withProject).2.view 0).held
            ((onStore (.filled [])).uidOf (.project, "p-1")) =
          (withProject.view 0).held ((onStore (.filled [])).uidOf (.project, "p-1"))) := by
  have hs : (Store.filled []).Sorted := Store.sorted_filled (by decide)
  have hi : (Store.filled []).KeepsIds := ⟨by decide, by decide, by decide⟩
  have hold : deletedProject.get? "id" = some (.str "p-1") := rfl
  obtain ⟨hq, hview⟩ := settled_withProject
  obtain ⟨e, he, hkept⟩ := deletion_keeps_documents (x := onStore (.filled [])) rfl hs hi hold
    (by decide) gone_deletedProject
  obtain rfl : .project "p-1" = e := Option.some.inj he
  obtain ⟨hpublished, hseen⟩ := hkept 0 withProject hq complete_deletedProject
  exact ⟨rfl, hs, hi, hold, by decide, gone_deletedProject, hq, hview, .project "p-1", he,
    complete_deletedProject, hpublished, hseen hview⟩

/-- **A project is still found after its deletion was followed.** -/
theorem deletion_count_ne_zero :
    Complete ((onStore (.filled [("projects", [deletedProject])])).rebuild
        (IndexDirectory.backend 0) IndexDirectory.single).1 ∧
      (withProject.view 0).count ⟨"mc", .project, "p-1"⟩ = 1 ∧
      (Store.filled []).Gone .project "p-1" ∧
      FeedEntry.event? ⟨"projects", deletedProject, .null⟩ = some (.project "p-1") ∧
      Complete ((onStore (.filled [])).apply (IndexDirectory.backend 0) (.project "p-1")
        withProject).1 ∧
      (((onStore (.filled [])).apply (IndexDirectory.backend 0) (.project "p-1")
        withProject).2.view 0).count ⟨"mc", .project, "p-1"⟩ ≠ 0 :=
  ⟨complete_withProject, by decide +kernel, gone_deletedProject, rfl, complete_deletedProject,
    by decide +kernel⟩

end Indexers

end LabIndex
