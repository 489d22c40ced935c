import LabIndex.Proofs.Json.Sorted
import LabIndex.Proofs.Search.Engines
import LabIndex.Proofs.Search.Held

/-!
# Keys that are written alike

A written key joins its parts with slashes, and names of indexes and ids may hold slashes too. So
the parts cannot always be told from it: where the name of an index goes on through the name, the
kind and the first pieces of the id of another key, and that id ends in the one's kind and id, both
keys are written alike, and a document under the one is taken for a document under the other.

* `DocumentKey.Nested`, `DocumentKey.uid_eq_iff`: all the keys that are written alike;
* `DocumentKey.Collides`: keys by which one document replaces another's, with
  `DocumentKey.not_collides_of_noSlash`: none do where names of indexes, or ids, have no slash;
* `Index.sameUnder_applyAll_operations`: requests leave alone what is written otherwise;
* `IndexDirectory.submitWith_cases`: what a submission makes of a directory, seen by its engines;
* `IndexDirectory.keepsApart_iff`: a submission under one key leaves the other key's documents
  alone, in every state, unless the keys collide.
-/

namespace LabIndex

/-! ## 1. Keys that are written alike -/

/-- No label holds a slash. -/
theorem Kind.slash_notMem_label (k : Kind) : '/' ∉ k.label.toList := by
  cases k <;> decide

/-- Where two texts are the same, each split at a separator, and the first part of the one has none:
    they are split at the same place, or the other at a later one. -/
theorem exists_of_append_cons_eq {c : Char} {xs ys us vs : List Char} (hc : c ∉ xs)
    (h : xs ++ c :: us = ys ++ c :: vs) :
    (ys = xs ∧ us = vs) ∨ ∃ more, ys = xs ++ c :: more ∧ us = more ++ c :: vs := by
  rcases List.append_eq_append_iff.mp h with ⟨more, hys, hus⟩ | ⟨more, hxs, hvs⟩
  · cases more with
    | nil =>
        rw [List.append_nil] at hys
        exact .inl ⟨hys, (List.cons.inj hus).2⟩
    | cons d more =>
        obtain ⟨rfl, hrest⟩ := List.cons.inj hus
        exact .inr ⟨more, hys, hrest⟩
  · cases more with
    | nil =>
        rw [List.append_nil] at hxs
        exact .inl ⟨hxs.symm, (List.cons.inj hvs).2.symm⟩
    | cons d more =>
        obtain ⟨rfl, -⟩ := List.cons.inj hvs
        rw [hxs] at hc
        exact absurd (List.mem_append_right _ List.mem_cons_self) hc

namespace DocumentKey

variable {k l : DocumentKey}

/-- **A key is nested in another**: the name of its index, ended by a slash, is the other's index and
    kind and what is between, and the other's id is what is between and its kind and id. -/
def Nested (k l : DocumentKey) : Prop :=
  ∃ between, k.index ++ "/" = l.index ++ "/" ++ l.kind.label ++ "/" ++ between ∧
    l.id = between ++ k.kind.label ++ "/" ++ k.id

theorem toList_uid (k : DocumentKey) :
    k.uid.toList = k.index.toList ++ '/' :: (k.kind.label.toList ++ '/' :: k.id.toList) := by
  simp [uid]

theorem Nested.uid_eq (h : k.Nested l) : k.uid = l.uid := by
  obtain ⟨between, hindex, hid⟩ := h
  calc k.uid = k.index ++ "/" ++ (k.kind.label ++ "/" ++ k.id) := by
        simp only [uid, String.append_assoc]
    _ = l.index ++ "/" ++ l.kind.label ++ "/" ++ (between ++ k.kind.label ++ "/" ++ k.id) := by
        rw [hindex]
        simp only [String.append_assoc]
    _ = l.uid := by rw [← hid, uid]

/-- A key that is written like another and whose index goes on after the other's is nested in it. -/
theorem nested_of_uid_eq (h : k.uid = l.uid) {rest : List Char}
    (hk : k.index.toList = l.index.toList ++ '/' :: rest) : k.Nested l := by
  have hchars := congrArg String.toList h
  rw [toList_uid, toList_uid, hk, List.append_assoc, List.append_cancel_left_eq,
    List.cons_append, List.cons.injEq] at hchars
  -- the other's label has no slash, so that what the index goes on with begins with all of it
  rcases exists_of_append_cons_eq l.kind.slash_notMem_label hchars.2.symm with
    ⟨rfl, hid⟩ | ⟨more, rfl, hid⟩
  · refine ⟨"", ?_, ?_⟩ <;> rw [← String.toList_inj]
    · simp [hk]
    · simp [hid]
  · refine ⟨String.ofList (more ++ ['/']), ?_, ?_⟩ <;> rw [← String.toList_inj]
    · simp [hk]
    · simp [hid]

/-- **All the keys that are written alike**: where none is nested in the other, the written form
    tells the keys apart. -/
theorem uid_eq_iff : k.uid = l.uid ↔ k = l ∨ k.Nested l ∨ l.Nested k := by
  constructor
  · intro h
    have hchars := congrArg String.toList h
    rw [toList_uid, toList_uid] at hchars
    rcases List.append_eq_append_iff.mp hchars with ⟨more, hl, hrest⟩ | ⟨more, hk, hrest⟩
    · cases more with
      | nil =>
          rw [List.append_nil] at hl
          exact .inl (eq_of_uid_eq (String.toList_inj.mp hl.symm) h)
      | cons c more =>
          obtain ⟨rfl, -⟩ := List.cons.inj hrest
          exact .inr (.inr (nested_of_uid_eq h.symm hl))
    · cases more with
      | nil =>
          rw [List.append_nil] at hk
          exact .inl (eq_of_uid_eq (String.toList_inj.mp hk) h)
      | cons c more =>
          obtain ⟨rfl, -⟩ := List.cons.inj hrest
          exact .inr (.inl (nested_of_uid_eq h hk))
  · rintro (rfl | h | h)
    · rfl
    · exact h.uid_eq
    · exact h.uid_eq.symm

namespace Nested

/-- The name of the index goes on after a slash. -/
theorem slash_mem_index (h : k.Nested l) : '/' ∈ k.index.toList := by
  obtain ⟨between, hindex, -⟩ := h
  have hchars : k.index.toList ++ ['/'] =
      l.index.toList ++ '/' :: (l.kind.label.toList ++ '/' :: between.toList) := by
    simpa using congrArg String.toList hindex
  by_contra hnone
  rcases exists_of_append_cons_eq hnone hchars with ⟨-, h⟩ | ⟨more, -, h⟩
  · simp at h
  · simp at h

/-- The other's id has a slash before its end. -/
theorem slash_mem_id (h : k.Nested l) : '/' ∈ l.id.toList := by
  obtain ⟨between, -, hid⟩ := h
  simp [hid]

theorem index_ne (h : k.Nested l) : k.index ≠ l.index := by
  obtain ⟨between, hindex, -⟩ := h
  intro he
  have hlength := congrArg String.length hindex
  have hslash : ("/" : String).length = 1 := rfl
  simp only [he, String.length_append, hslash] at hlength
  omega

end Nested

/-- **Keys collide**: one is nested in the other, and the written form of both is short enough to be
    held as a term. -/
def Collides (k l : DocumentKey) : Prop :=
  (k.Nested l ∨ l.Nested k) ∧ k.uid.utf8ByteSize ≤ Search.longTerm

theorem Collides.uid_eq (h : k.Collides l) : k.uid = l.uid := uid_eq_iff.mpr (.inr h.1)

/-- Different keys that do not collide are written differently, if their form is a term at all. -/
theorem uid_ne_of_not_collides (hne : k ≠ l) (h : ¬ k.Collides l)
    (hs : l.uid.utf8ByteSize ≤ Search.longTerm) : k.uid ≠ l.uid := by
  intro he
  rcases uid_eq_iff.mp he with rfl | hn
  · exact hne rfl
  · exact h ⟨hn, he ▸ hs⟩

/-- Keys of one index do not collide. -/
theorem not_collides_of_index_eq (h : k.index = l.index) : ¬ k.Collides l
  | ⟨.inl hn, _⟩ => hn.index_ne h
  | ⟨.inr hn, _⟩ => hn.index_ne h.symm

/-- **Keys do not collide where the names of their indexes, or their ids, hold no slash.** -/
theorem not_collides_of_noSlash
    (h : ('/' ∉ k.index.toList ∧ '/' ∉ l.index.toList) ∨ ('/' ∉ k.id.toList ∧ '/' ∉ l.id.toList)) :
    ¬ k.Collides l := by
  rintro ⟨hn | hn, -⟩
  · rcases h with h | h
    · exact h.1 hn.slash_mem_index
    · exact h.2 hn.slash_mem_id
  · rcases h with h | h
    · exact h.2 hn.slash_mem_index
    · exact h.1 hn.slash_mem_id

end DocumentKey

namespace Search

/-! ## 2. What an index has under a key -/

namespace Index

/-- Under a key two indexes show the same: as many documents, and the same one. -/
structure SameUnder (key : DocumentKey) (x y : Index) : Prop where
  count : x.count key = y.count key
  get : x.get key = y.get key

variable {key : DocumentKey}

theorem SameUnder.refl (key : DocumentKey) (x : Index) : x.SameUnder key x := ⟨rfl, rfl⟩

/-- **Requests leave alone what is written otherwise**, and what is too long to be a term. -/
theorem sameUnder_applyAll_operations (x : Index) {requests : List Request}
    (h : key.uid.utf8ByteSize ≤ longTerm → ∀ r ∈ requests, r.uid ≠ key.uid) :
    Index.SameUnder key (x.applyAll (operations requests)) x where
  count := count_of_held fun hs => held_applyAll_operations_of_forall_ne x (h hs)
  get := get_of_held fun hs => held_applyAll_operations_of_forall_ne x (h hs)

/-- **A request takes the place of all that is written like it.** -/
theorem applyAll_operations_under (x : Index) {r : Request} (h : r.uid = key.uid)
    (hs : key.uid.utf8ByteSize ≤ longTerm) :
    Index.count (x.applyAll (operations [r])) key = 1 ∧
      Index.get (x.applyAll (operations [r])) key = (stored r).map some := by
  have hu : isUnder key.uid r = true := by simpa [isUnder_of_short hs] using h
  have hheld : Index.held (x.applyAll (operations [r])) key.uid = Index.held [r] key.uid := by
    rw [held_applyAll_operations x [r] hs, upserts_eq_getLast?]
    simp [held, h]
  constructor
  · rw [count_of_held fun _ => hheld, count, List.countP_singleton, if_pos hu]
  · rw [get_of_held fun _ => hheld, get, List.find?_singleton, if_pos hu]

end Index

/-! ## 3. What a submission leaves alone -/

namespace IndexDirectory

variable {d : IndexDirectory}

/-- A submission leaves nothing queued. -/
theorem queued_submitWith (hq : d.queued = []) (n : Nat) (batch : List Request) (fate : Fate) :
    (d.submitWith n batch fate).2.queued = [] := by
  cases hw : d.writeFailure? n with
  | some f => rwa [submitWith_of_writeFailure hw]
  | none => cases fate <;> simp [submitWith, hw, Writer.submit, Writer.commit, Writer.rollback]

/-- No call leaves anything queued. -/
theorem queued_ask (hq : d.queued = []) (c : Call) : (d.ask c).2.queued = [] := by
  cases c with
  | opening memory => exact hq
  | submit n batch fate => exact queued_submitWith hq n batch fate
  | count n key => exact hq
  | get n key => exact hq
  | numDocs n => exact hq
  | search n text kind limit =>
      rw [ask, search_snd]
      split
      · rwa [queued_refresh]
      · exact hq
  | refresh n => rwa [ask, queued_refresh]
  | close n =>
      simp only [ask, close]
      split
      · rfl
      · exact hq

/-- **Nothing is queued between calls**, whatever the engines of a directory have been asked. -/
theorem queued_after (x : Index) (calls : List Call) : ((ofIndex x).after calls).queued = [] := by
  induction calls using List.reverseRecOn with
  | nil => rfl
  | append_singleton calls c ih =>
      rw [after_snoc]
      exact queued_ask ih c

/-- A submission is nothing to the other engines: they see what they saw. -/
theorem view_submitWith_of_ne {n m : Nat} (h : n ≠ m) (batch : List Request) (fate : Fate) :
    (d.submitWith n batch fate).2.view m = d.view m := by
  cases hw : d.writeFailure? n with
  | some f => rw [submitWith_of_writeFailure hw]
  | none =>
      simp only [submitWith, hw]
      cases fate with
      | taken =>
          rw [view, engine?_refresh_of_ne h]
          rfl
      | refused queued reason => rfl

/-- A batch is taken, or what is published and what its engine sees stay as they were. -/
theorem submitWith_cases (n : Nat) (batch : List Request) (fate : Fate) :
    (fate = .taken ∧ d.writeFailure? n = none) ∨
      ((d.submitWith n batch fate).2.published = d.published ∧
        (d.submitWith n batch fate).2.view n = d.view n) := by
  cases hw : d.writeFailure? n with
  | some f =>
      rw [submitWith_of_writeFailure hw]
      exact .inr ⟨rfl, rfl⟩
  | none =>
      cases fate with
      | taken => exact .inl ⟨rfl, rfl⟩
      | refused queued reason =>
          simp only [submitWith, hw]
          exact .inr ⟨rfl, rfl⟩

/-- What a batch is written over, where nothing is queued. -/
theorem written_of_mayWrite (hq : d.queued = []) {n : Nat} (hw : d.writeFailure? n = none)
    (batch : List Request) :
    (d.submit n batch).2.published = d.published.applyAll (operations batch) ∧
      (d.submit n batch).2.view n = d.published.applyAll (operations batch) := by
  have hwritten := written_of_submit (submit_of_mayWrite hw batch).1
  have hpublished := hwritten.published
  rw [hq] at hpublished
  exact ⟨hpublished, hwritten.view.trans hpublished⟩

/-- **Under a key a directory shows the same as before**: in the index that is published, to every
    engine but the one that submits, and to that one too unless it saw an older index; then it may
    have come to see what is published. -/
structure SameUnder (key : DocumentKey) (n : Nat) (d' d : IndexDirectory) : Prop where
  published : d'.published.SameUnder key d.published
  others : ∀ m, n ≠ m → (d'.view m).SameUnder key (d.view m)
  own : d.view n = d.published → (d'.view n).SameUnder key (d.view n)
  looked : (d'.view n).SameUnder key (d.view n) ∨ (d'.view n).SameUnder key d.published

/-- A submission leaves alone what is written otherwise than its requests. -/
theorem sameUnder_submitWith {key : DocumentKey} (hq : d.queued = []) (n : Nat)
    {batch : List Request} (fate : Fate)
    (h : key.uid.utf8ByteSize ≤ longTerm → ∀ r ∈ batch, r.uid ≠ key.uid) :
    (d.submitWith n batch fate).2.SameUnder key n d := by
  have hothers : ∀ m, n ≠ m →
      ((d.submitWith n batch fate).2.view m).SameUnder key (d.view m) := by
    intro m hm
    rw [view_submitWith_of_ne hm]
    exact .refl key (d.view m)
  rcases d.submitWith_cases n batch fate with ⟨rfl, hw⟩ | ⟨hp, hv⟩
  · obtain ⟨hp, hv⟩ := written_of_mayWrite hq hw batch
    have hkept := Index.sameUnder_applyAll_operations d.published h
    rw [← submit] at hothers ⊢
    exact {
      published := by rwa [hp]
      others := hothers
      own := fun hseen => by rwa [hv, hseen]
      looked := .inr (by rwa [hv]) }
  · have hown : ((d.submitWith n batch fate).2.view n).SameUnder key (d.view n) := by
      rw [hv]
      exact .refl key (d.view n)
    exact {
      published := by
        rw [hp]
        exact .refl key d.published
      others := hothers
      own := fun _ => hown
      looked := .inl hown }

/-- **Submissions under the one key keep what is under the other**, in every state: whatever the
    engines of a directory have been asked before, whatever batch under the one key an engine
    submits, and however writing it ends. -/
def KeepsApart (k l : DocumentKey) : Prop :=
  ∀ (x : Index) (calls : List Call) (n : Nat) (batch : List Request) (fate : Fate),
    (∀ r ∈ batch, r.key = k) →
    (((ofIndex x).after calls).submitWith n batch fate).2.SameUnder l n ((ofIndex x).after calls)

/-- **A document under the one key takes the place of what is under the other**, in every state in
    which the engine that submits it may write. -/
def Replaces (k l : DocumentKey) : Prop :=
  ∀ (x : Index) (calls : List Call) (n : Nat) (r : Request), r.key = k →
    ((ofIndex x).after calls).writeFailure? n = none →
    ((((ofIndex x).after calls).submit n [r]).2.view n).count l = 1 ∧
      ((((ofIndex x).after calls).submit n [r]).2.view n).get l = (Index.stored r).map some

section Keys

variable {k l : DocumentKey}

theorem keepsApart_of_not_collides (hne : k ≠ l) (h : ¬ k.Collides l) : KeepsApart k l := by
  intro x calls n batch fate hb
  refine sameUnder_submitWith (queued_after x calls) n fate fun hs r hr => ?_
  rw [Request.uid, hb r hr]
  exact DocumentKey.uid_ne_of_not_collides hne h hs

theorem replaces_of_collides (h : k.Collides l) : Replaces k l := by
  intro x calls n r hr hw
  obtain ⟨-, hv⟩ := written_of_mayWrite (queued_after x calls) hw [r]
  have huid : r.uid = l.uid := by rw [Request.uid, hr, h.uid_eq]
  rw [hv]
  exact Index.applyAll_operations_under _ huid (h.uid_eq ▸ h.2)

/-- What is replaced is not kept: an engine on a new index finds nothing under any key. -/
theorem not_keepsApart_of_replaces (h : Replaces k l) : ¬ KeepsApart k l := by
  intro hkeeps
  have hw : ((ofIndex []).after [.opening leastThreadMemory]).writeFailure? 0 = none := by decide
  have hnone := (hkeeps [] [.opening leastThreadMemory] 0 [⟨k.index, k.kind, k.id, .null⟩] .taken
    (by simp [Request.key])).own rfl
  have hone := h [] [.opening leastThreadMemory] 0 ⟨k.index, k.kind, k.id, .null⟩ rfl hw
  have hzero : Index.count (((ofIndex []).after [.opening leastThreadMemory]).view 0) l = 0 := rfl
  rw [submit, hnone.count, hzero] at hone
  exact absurd hone.1 (by decide)

/-- **Of different keys, submissions under the one keep what is under the other unless the keys
    collide**; where they do, a document under the one takes the place of what is under the other. -/
theorem keepsApart_iff (hne : k ≠ l) :
    (KeepsApart k l ↔ ¬ k.Collides l) ∧ (Replaces k l ↔ k.Collides l) := by
  have hreplaces : k.Collides l → Replaces k l := replaces_of_collides
  have hkeeps : ¬ k.Collides l → KeepsApart k l := keepsApart_of_not_collides hne
  refine ⟨⟨fun hk hc => ?_, hkeeps⟩, fun hr => ?_, hreplaces⟩
  · exact not_keepsApart_of_replaces (hreplaces hc) hk
  · by_contra hc
    exact not_keepsApart_of_replaces hr (hkeeps hc)

end Keys

/-- Records of two kinds with one id have keys that do not collide. -/
theorem keepsApart_sameId :
    (⟨"mc", .sample, "x-1"⟩ : DocumentKey) ≠ ⟨"mc", .process, "x-1"⟩ ∧
      ¬ DocumentKey.Collides ⟨"mc", .sample, "x-1"⟩ ⟨"mc", .process, "x-1"⟩ ∧
      KeepsApart ⟨"mc", .sample, "x-1"⟩ ⟨"mc", .process, "x-1"⟩ := by
  have hnot := DocumentKey.not_collides_of_index_eq
    (k := ⟨"mc", .sample, "x-1"⟩) (l := ⟨"mc", .process, "x-1"⟩) rfl
  exact ⟨by decide, hnot, (keepsApart_iff (by decide)).1.mpr hnot⟩

/-- A project whose id goes on like the key of a sample. -/
def pathProject : Request := ⟨"mc", .project, "p-1/sample/s-1", .obj [("name", .str "alloy")]⟩

/-- A sample in an index whose name goes on like the key of a project. -/
def nestedSample : Request := ⟨"mc/project/p-1", .sample, "s-1", .obj [("name", .str "coupon")]⟩

theorem collides_nestedSample : nestedSample.key.Collides pathProject.key :=
  ⟨.inl ⟨"p-1/", by decide, by decide⟩, by decide⟩

/-- The sample destroys the project's document and is shown in its place. -/
theorem nestedSample_destroys_pathProject :
    let d := (ofIndex []).after [.opening leastThreadMemory, .submit 0 [pathProject] .taken]
    let d' := (d.submit 0 [nestedSample]).2
    nestedSample.key ≠ pathProject.key ∧
      (d.view 0).count pathProject.key = 1 ∧
      (d.view 0).get pathProject.key = .ok (some (.obj [("name", .str "alloy")])) ∧
      (d'.view 0).count pathProject.key = 1 ∧
      (d'.view 0).get pathProject.key = .ok (some (.obj [("name", .str "coupon")])) ∧
      ¬ KeepsApart nestedSample.key pathProject.key := by
  intro d d'
  have hopened : ((ofIndex []).after [.opening leastThreadMemory]).writeFailure? 0 = none := by decide
  have hview : d.view 0 = Index.applyAll [] (operations [pathProject]) :=
    (written_of_mayWrite rfl hopened [pathProject]).2
  have hproject : Index.count (Index.applyAll [] (operations [pathProject])) pathProject.key = 1 ∧
      Index.get (Index.applyAll [] (operations [pathProject])) pathProject.key =
        (Index.stored pathProject).map some := Index.applyAll_operations_under [] rfl (by decide)
  have hreplaces := replaces_of_collides collides_nestedSample
  have hsample := hreplaces []
    [.opening leastThreadMemory, .submit 0 [pathProject] .taken] 0 nestedSample rfl
    (by decide +kernel)
  have hread : Index.stored pathProject = .ok pathProject.document :=
    Index.stored_eq (by decide +kernel) ⟨trivial, trivial⟩ (by decide +kernel)
  have hread' : Index.stored nestedSample = .ok nestedSample.document :=
    Index.stored_eq (by decide +kernel) ⟨trivial, trivial⟩ (by decide +kernel)
  rw [hread] at hproject
  rw [hread'] at hsample
  rw [hview]
  exact ⟨by decide, hproject.1, hproject.2, hsample.1, hsample.2,
    not_keepsApart_of_replaces hreplaces⟩

end IndexDirectory

end Search

end LabIndex
