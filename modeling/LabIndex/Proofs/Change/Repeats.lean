import LabIndex.Proofs.Change.Links
import Mathlib.Data.List.Flatten

/-!
# Repeated entities

A change is followed by running some kinds over lists of ids. No kind is run twice, and no list
names an entity twice, with one exception: the files of a note are taken as the links of the note
name them, so that a file with two links from the note runs twice. Where no list repeats an
entity, following the change hands on each row of the store at most once, however it ends; so each
document is submitted at most once where its entity has one row.

* `ChangeEvent.NamesFilesOnce`, `ChangeEvent.different_plan`: when no target of a plan repeats an id;
* `Store.rowsNaming`, `Store.LinkedOnce`: the rows of an entity, and stores that have at most one
  for each, by `Store.LinkedOnce.length_rowsNaming_le`;
* `Indexers.count_targets_le`: targets that repeat nothing ask for each row at most once;
* `Indexers.apply_submits_once`: what following a change submits.
-/

namespace LabIndex

/-! ## 1. The lists of a plan -/

/-- **Targets are different**: there is one for a kind at most, and none but the one for files repeats
    an id; that one does not either exactly if a condition is met. -/
structure Target.Different (targets : List Target) (once : Prop) : Prop where
  kinds : (targets.map (·.kind)).Nodup
  others : ∀ t ∈ targets, t.kind ≠ .file → t.ids.Nodup
  ids : (∀ t ∈ targets, t.ids.Nodup) ↔ once

namespace Target

theorem map_kind_ofIds (k : Kind) (ids : List String) :
    ((ofIds k ids).map (·.kind)).Sublist [k] := by
  rw [ofIds]
  split
  · exact List.nil_sublist _
  · exact List.Sublist.refl _

theorem kind_of_mem_ofIds {k : Kind} {ids : List String} {t : Target} (h : t ∈ ofIds k ids) :
    t.kind = k :=
  List.mem_singleton.mp ((map_kind_ofIds k ids).subset (List.mem_map_of_mem h))

theorem nodup_ofIds_iff (k : Kind) (ids : List String) :
    (∀ t ∈ ofIds k ids, t.ids.Nodup) ↔ ids.Nodup := by
  rw [ofIds]
  split
  · rename_i hids
    rw [List.isEmpty_iff.mp hids]
    simp
  · simp

theorem different_ofIds (k : Kind) {ids : List String} (h : ids.Nodup) :
    Different (ofIds k ids) True where
  kinds := (List.nodup_singleton k).sublist (map_kind_ofIds k ids)
  others t ht _ := (nodup_ofIds_iff k ids).mpr h t ht
  ids := iff_true_intro ((nodup_ofIds_iff k ids).mpr h)

theorem different_files (files : List String) {samples : List String} (h : samples.Nodup) :
    Different (ofIds .file files ++ ofIds .sample samples) files.Nodup where
  kinds := by
    have hkinds : [Kind.file, .sample].Nodup := by decide
    rw [List.map_append]
    exact hkinds.sublist ((map_kind_ofIds .file files).append (map_kind_ofIds .sample samples))
  others t ht hk := by
    rcases List.mem_append.mp ht with ht | ht
    · exact absurd (kind_of_mem_ofIds ht) hk
    · exact (nodup_ofIds_iff .sample samples).mpr h t ht
  ids := by
    rw [List.forall_mem_append, nodup_ofIds_iff, nodup_ofIds_iff]
    exact and_iff_left h

end Target

namespace ChangeEvent

variable {src : Source} {targets : List Target}

/-- The links of a note name no file twice. Other changes name one file at most. -/
def NamesFilesOnce (src : Source) : ChangeEvent → Prop
  | note id => ∀ rows, src.allRows (.getAllBy "note2item" "note_id" [id]) = .ok rows →
      (filesAmong rows).Nodup
  | _ => True

theorem namesFilesOnce_of_ne {e : ChangeEvent} (h : ∀ n, e ≠ note n) : e.NamesFilesOnce src := by
  cases e with
  | note n => exact absurd rfl (h n)
  | _ => trivial

theorem different_fileTargets {files : List String} (h : fileTargets src files = .ok targets) :
    Target.Different targets files.Nodup := by
  rw [fileTargets, bind_eq_ok_iff] at h
  obtain ⟨samples, hs, h⟩ := h
  obtain rfl := Except.ok.inj h
  refine Target.different_files files ?_
  rw [samplesUsing] at hs
  split at hs
  · rw [← Except.ok.inj hs]
    exact List.nodup_nil
  · obtain ⟨rows, -, rfl⟩ := exists_of_map_eq_ok hs
    exact nodup_distinctColumn "sample_id" rows

/-- **The targets of a plan are different**, and repeat no file either exactly if the links of a note
    name none twice. -/
theorem different_plan {e : ChangeEvent} (h : e.plan src = .ok targets) :
    Target.Different targets (e.NamesFilesOnce src) := by
  rcases plan_cases h with ⟨n, rows, rfl, hrows, h⟩ | ⟨hnote, h⟩
  · have honce : (note n).NamesFilesOnce src ↔ (filesAmong rows).Nodup := by
      rw [NamesFilesOnce, hrows]
      exact ⟨fun hall => hall rows rfl, fun hn _ hr => Except.ok.inj hr ▸ hn⟩
    rw [propext honce]
    exact different_fileTargets h
  · rw [eq_true (namesFilesOnce_of_ne hnote)]
    rcases h with ⟨id, h⟩ | ⟨k, ids, hids, rfl⟩
    · have hdifferent := different_fileTargets h
      rwa [eq_true (List.nodup_singleton id)] at hdifferent
    · exact Target.different_ofIds k hids

end ChangeEvent

/-! ## 2. The rows of an entity -/

namespace Store

variable {s : Store} {k : Kind}

/-- The rows of the members of a kind that name an id. -/
def rowsNaming (s : Store) (k : Kind) (id : String) : List Json :=
  ((s.table k.memberTable).flatMap (s.expand k)).filter fun row => row.key k.idColumn == some id

/-- A scope of different ids covers rows of the members, each as often as it is there. -/
theorem countP_rowsOf_le {ids : List String} (hne : ids ≠ []) (hd : ids.Nodup) (p : Json → Bool) :
    (s.rowsOf k (.ofIds ids)).countP p ≤
      ((s.table k.memberTable).flatMap (s.expand k)).countP p := by
  have hmembers := flatMap_filter_any_perm hd (·.key k.memberColumn) (s.table k.memberTable)
  rw [rowsOf, members, Scope.ids?_ofIds hne]
  refine ((hmembers.flatMap_right (s.expand k)).countP_eq p).trans_le (List.Sublist.countP_le ?_)
  exact List.filter_sublist.flatMap (s.expand k)

/-- The rows that a scope of ids covers are objects. -/
theorem exists_obj_of_mem_rowsOf {ids : List String} (hne : ids ≠ []) {row : Json}
    (h : row ∈ s.rowsOf k (.ofIds ids)) : ∃ fs, row = .obj fs := by
  obtain ⟨m, hm, hrow⟩ := List.mem_flatMap.mp h
  rw [members, Scope.ids?_ofIds hne] at hm
  obtain ⟨id, -, hm⟩ := List.mem_flatMap.mp hm
  rcases exists_obj_of_mem_expand hrow with hobj | ⟨-, rfl⟩
  · exact hobj
  · obtain ⟨fs, hfs, -⟩ := Json.exists_obj_of_key (mem_withKey.mp hm).2
    exact ⟨fs, hfs⟩

/-- No two rows of a table have the same text in a column. -/
def Distinct (s : Store) (table column : String) : Prop :=
  ((s.table table).filterMap (·.key column)).Nodup

instance (s : Store) (table column : String) : Decidable (s.Distinct table column) :=
  inferInstanceAs (Decidable (List.Nodup _))

/-- **Each entity has one row at most**: one that makes it a member of its kind, one link to a
    directory if it is a file, and one row of its own. -/
structure LinkedOnce (s : Store) : Prop where
  members : ∀ k : Kind, s.Distinct k.memberTable k.memberColumn
  directories : s.Distinct "datadir2datafile" "datafile_id"
  entities : ∀ t ∈ ["datadirs", "datafiles", "samples", "processes"], s.Distinct t "id"

theorem length_withKey_le {table column : String} (h : s.Distinct table column) (key : String) :
    (withKey column key (s.table table)).length ≤ 1 := by
  have hcount := List.nodup_iff_count_le_one.mp h key
  rw [List.count, List.countP_filterMap] at hcount
  rw [withKey, ← List.countP_eq_length_filter]
  refine (List.countP_mono_left fun row _ hrow => ?_).trans hcount
  rw [beq_iff_eq.mp hrow]
  exact beq_self_eq_true key

theorem length_joinedWith_le {table index : String} (h : s.Distinct table index) (f : Json → Json)
    (field : String) (left : Json) : (s.joinedWith f field table index left).length ≤ 1 := by
  rw [joinedWith]
  split
  · rw [List.length_map]
    exact length_withKey_le h _
  · exact Nat.zero_le 1

/-- A list of at most one element, each followed to at most one. -/
theorem length_flatMap_le {α β : Type} {xs : List α} {f : α → List β} (hx : xs.length ≤ 1)
    (hf : ∀ x ∈ xs, (f x).length ≤ 1) : (xs.flatMap f).length ≤ 1 := by
  match xs, hx with
  | [], _ => exact Nat.zero_le 1
  | [x], _ =>
      rw [List.flatMap_singleton]
      exact hf x (List.mem_singleton_self x)

/-- A member is followed to one row at most. -/
theorem LinkedOnce.length_expand_le (h : s.LinkedOnce) (k : Kind) (m : Json) :
    (s.expand k m).length ≤ 1 := by
  cases k with
  | file =>
      refine length_flatMap_le (length_joinedWith_le h.directories id "datafile_id" m) fun link _ => ?_
      refine length_flatMap_le (length_joinedWith_le (h.entities _ (by decide)) _ "datadir_id" link)
        fun dir _ => ?_
      exact length_joinedWith_le (h.entities _ (by decide)) id "datafile_id" dir
  | sample => exact length_joinedWith_le (h.entities _ (by decide)) id "sample_id" m
  | process => exact length_joinedWith_le (h.entities _ (by decide)) id "process_id" m
  | project | user => exact Nat.le_refl 1

/-- The rows that name an id are those of the members that do. -/
theorem rowsNaming_eq (hs : s.Sorted) (hi : s.KeepsId k) (id : String) :
    s.rowsNaming k id =
      (withKey k.memberColumn id (s.table k.memberTable)).flatMap (s.expand k) := by
  refine filter_flatMap_eq fun m _ => ?_
  have hkeys : ∀ row ∈ s.expand k m,
      (row.key k.idColumn == some id) = (m.key k.memberColumn == some id) := by
    intro row hrow
    rw [key_of_mem_expand hs hi hrow]
  rw [List.filter_congr hkeys]
  cases m.key k.memberColumn == some id <;> simp

/-- **Entities that are linked once have one row at most.** -/
theorem LinkedOnce.length_rowsNaming_le (h : s.LinkedOnce) (hs : s.Sorted) (hi : s.KeepsIds)
    (k : Kind) (id : String) : (s.rowsNaming k id).length ≤ 1 := by
  rw [rowsNaming_eq hs (hi.keepsId k)]
  exact length_flatMap_le (length_withKey_le (h.members k) id) fun m _ => h.length_expand_le k m

end Store

/-! ## 3. What following a change submits -/

namespace Indexers

variable {σ : Type} {x : Indexers} {s : Store}

/-- A run over different ids asks for each row that names an id at most once. -/
theorem countP_requestsOf_le {ids : List String} (hne : ids ≠ []) (hd : ids.Nodup) (k : Kind)
    (id : String) :
    (x.requestsOf s k (.ofIds ids)).countP (fun r => r.id = id) ≤ (s.rowsNaming k id).length := by
  rw [requestsOf, List.countP_filterMap, Store.rowsNaming, ← List.countP_eq_length_filter]
  refine le_trans (List.countP_mono_left fun row hrow h => ?_) (Store.countP_rowsOf_le hne hd _)
  obtain ⟨fs, rfl⟩ := Store.exists_obj_of_mem_rowsOf hne hrow
  cases hr : x.request? s k (.obj fs) with
  | none => simp [hr] at h
  | some r =>
      have hid : r.id = id := by simpa [hr] using h
      rw [key_of_request?_obj hr, hid]
      exact beq_self_eq_true _

/-- **Different targets ask for each row at most once**: under a key there are no more requests than
    the store has rows of the entity. -/
theorem count_targets_le {targets : List Target} (hk : (targets.map (·.kind)).Nodup)
    (hne : ∀ t ∈ targets, t.ids ≠ []) (hd : ∀ t ∈ targets, t.ids.Nodup) (key : DocumentKey) :
    ((targets.flatMap fun t => x.requestsOf s t.kind (.ofIds t.ids)).map Request.key).count key ≤
      (s.rowsNaming key.kind key.id).length := by
  have hkind : ∀ t ∈ targets, ∀ r ∈ x.requestsOf s t.kind (.ofIds t.ids), r.kind = t.kind :=
    fun t _ r hr => kind_of_mem_requests hr
  rw [List.count, List.countP_map]
  by_cases hmem : ∃ t ∈ targets, t.kind = key.kind
  · -- all the requests of the kind come from one target
    obtain ⟨t, ht, htk⟩ := hmem
    have hone := filter_flatMap_targets hk ht hkind key.id
    calc _ ≤ (targets.flatMap fun t => x.requestsOf s t.kind (.ofIds t.ids)).countP
          fun r => r.kind = t.kind ∧ r.id = key.id := by
          refine List.countP_mono_left fun r _ hr => ?_
          have hr : r.key = key := by simpa using hr
          simp [htk, ← hr, Request.key]
      _ = (x.requestsOf s t.kind (.ofIds t.ids)).countP fun r => r.id = key.id := by
          rw [List.countP_eq_length_filter, hone, ← List.countP_eq_length_filter]
      _ ≤ (s.rowsNaming key.kind key.id).length := by
          rw [← htk]
          exact countP_requestsOf_le (hne t ht) (hd t ht) t.kind key.id
  · refine le_of_eq_of_le (List.countP_eq_zero.mpr fun r hr hkey => ?_) (Nat.zero_le _)
    obtain ⟨t, ht, hr⟩ := List.mem_flatMap.mp hr
    have hr' : r.key = key := by simpa using hkey
    exact hmem ⟨t, ht, by rw [← hkind t ht r hr, ← hr']; rfl⟩

/-- What following a change submits, whether it ends well or not. -/
def submittedBy (x : Indexers) (b : Backend σ) (e : ChangeEvent) (state : σ) : List Request :=
  (x.apply b.logged e (state, [])).2.2.flatten

/-- **A change that names no file twice submits each row at most once.** -/
theorem count_submittedBy_le (hx : x.source = .ofStore s) (b : Backend σ) {e : ChangeEvent}
    {targets : List Target} (hp : e.plan x.source = .ok targets) (honce : e.NamesFilesOnce x.source)
    (state : σ) (key : DocumentKey) :
    ((x.submittedBy b e state).map Request.key).count key ≤ (s.rowsNaming key.kind key.id).length := by
  obtain ⟨batches, hlog, hsub⟩ := exists_log_of_runAll hx b targets state []
  have hplan := ChangeEvent.different_plan hp
  have hsubmitted : x.submittedBy b e state = batches.flatten := by
    rw [submittedBy, apply, hp]
    exact congrArg List.flatten hlog
  rw [hsubmitted]
  exact ((hsub.map Request.key).count_le key).trans (count_targets_le hplan.kinds
    (ChangeEvent.ids_ne_nil_of_plan hp) (hplan.ids.mpr honce) key)

/-- **A change asks for each entity at most once**, where the links of a note name no file twice.
    Whatever the source answers, the targets of its plan are of different kinds, and none but those
    for the files of a note ever repeats an id. On a store, following a change that repeats none
    submits each row of the store at most once; so where entities are linked once no document is
    submitted twice. -/
theorem apply_submits_once {e : ChangeEvent} {targets : List Target}
    (h : e.plan x.source = .ok targets) :
    (targets.map (·.kind)).Nodup ∧
      (∀ t ∈ targets, t.kind ≠ .file → t.ids.Nodup) ∧
      ((∀ t ∈ targets, t.ids.Nodup) ↔ e.NamesFilesOnce x.source) ∧
      ∀ s, x.source = .ofStore s → e.NamesFilesOnce x.source → ∀ (b : Backend σ) (state : σ),
        (∀ key : DocumentKey, ((x.submittedBy b e state).map Request.key).count key ≤
          (s.rowsNaming key.kind key.id).length) ∧
        (s.Sorted → s.KeepsIds → s.LinkedOnce →
          ((x.submittedBy b e state).map Request.key).Nodup) := by
  have hplan := ChangeEvent.different_plan h
  refine ⟨hplan.kinds, hplan.others, hplan.ids, fun s hx honce b state => ?_⟩
  have hcount := count_submittedBy_le hx b h honce state
  refine ⟨hcount, fun hs hi hl => List.nodup_iff_count_le_one.mpr fun key => ?_⟩
  exact (hcount key).trans (hl.length_rowsNaming_le hs hi key.kind key.id)

end Indexers

namespace Store

/-- A link from a note to a file. -/
def noteLink (id : String) : Json :=
  .obj [("id", .str id), ("item_id", .str "f-1"), ("item_type", .str "datafile"),
    ("note_id", .str "n-1")]

/-- A file with a note, which each of some links links to it, and a sample that uses the file. -/
def noted (links : List String) : Store :=
  filled (fileInDirectory (directory []) ++ [
    ("note2item", links.map noteLink),
    ("project2sample", [projectSample "l-1" "p-1" "s-1"]),
    ("samples", [.obj [("id", .str "s-1")]]),
    ("sample2datafile", [sampleFile "s-1" "f-1"])])

end Store

namespace Indexers

open Store (noted)

/-- A note that is linked to its file once: the file and the sample are submitted once. -/
theorem apply_submits_once_noted :
    let s := noted ["l-1"]
    let x := onStore s
    let e := ChangeEvent.note "n-1"
    e.plan x.source = .ok [⟨.file, ["f-1"]⟩, ⟨.sample, ["s-1"]⟩] ∧ x.source = .ofStore s ∧
      e.NamesFilesOnce x.source ∧ s.Sorted ∧ s.KeepsIds ∧ s.LinkedOnce ∧
      ((x.submittedBy Backend.accepting e ()).map Request.id) = ["f-1", "s-1"] ∧
      ((x.submittedBy Backend.accepting e ()).map Request.key).Nodup := by
  intro s x e
  have hplan : e.plan x.source = .ok [⟨.file, ["f-1"]⟩, ⟨.sample, ["s-1"]⟩] := by decide +kernel
  have honce : e.NamesFilesOnce x.source := (ChangeEvent.different_plan hplan).ids.mp (by decide)
  have hs : s.Sorted := Store.sorted_filled (by decide)
  have hi : s.KeepsIds := ⟨by decide, by decide, by decide⟩
  have hl : s.LinkedOnce := ⟨fun k => by cases k <;> decide, by decide, by decide⟩
  exact ⟨hplan, rfl, honce, hs, hi, hl, by decide +kernel,
    ((apply_submits_once hplan).2.2.2 s rfl honce Backend.accepting ()).2 hs hi hl⟩

/-- **Of a note with two links to its file the plan names the file twice**, and following the change
    submits it twice, though the store has one row of it. -/
theorem notedTwice_submits_twice :
    let s := noted ["l-1", "l-2"]
    let x := onStore s
    let e := ChangeEvent.note "n-1"
    e.plan x.source = .ok [⟨.file, ["f-1", "f-1"]⟩, ⟨.sample, ["s-1"]⟩] ∧
      ¬ ["f-1", "f-1"].Nodup ∧ s.Sorted ∧ s.KeepsIds ∧ s.LinkedOnce ∧
      ((x.submittedBy Backend.accepting e ()).map Request.id) = ["f-1", "f-1", "s-1"] ∧
      ¬ ((x.submittedBy Backend.accepting e ()).map Request.key).Nodup := by
  intro s x e
  have hs : s.Sorted := Store.sorted_filled (by decide)
  have hi : s.KeepsIds := ⟨by decide, by decide, by decide⟩
  have hl : s.LinkedOnce := ⟨fun k => by cases k <;> decide, by decide, by decide⟩
  exact ⟨by decide +kernel, by decide, hs, hi, hl, by decide +kernel, by decide +kernel⟩

end Indexers

end LabIndex
