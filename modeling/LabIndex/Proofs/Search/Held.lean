import LabIndex.Proofs.Search.Upsert

/-!
# What an index holds under a key

The documents under one written key, and what writing requests makes of them: the last request with
the key takes the place of what was there, and where there is none nothing changes. A key too long
for a term is no key: what is written under it stays beside what was there.

* `DocumentKey.eq_of_uid_eq`: within one index a written key tells kinds and ids apart;
* `Index.found`: what is found by a key, with `Index.count_eq_found` and `Index.get_eq_found`;
* `Index.count_of_held`, `Index.get_of_held`: what is found by a key is what is held under it;
* `Index.overwritten`, `Index.applyAll_operations`: what requests written over an index leave of it,
  and which of them remain;
* `Index.held_applyAll_operations`, `Index.held_applyAll_operations_of_long`: requests written over
  an index, key by key;
* `Index.held_applyAll_congr`: requests that are the same key by key;
* `Index.SameDocuments`: two indexes hold the same documents under the same keys, with what
  `count` and `get` then are;
* `Index.sameDocuments_applyAll_iff`: requests with the same members leave the same documents where
  the last ones under each key are the same;
* `IndexDirectory.submit_of_mayWrite`, `IndexDirectory.written_of_submit`: a batch of an engine that
  may write is taken, and a batch that is taken is written over the index.
-/

namespace LabIndex

/-! ## 1. Written keys -/

/-- **Within one index a written key is the key of one kind and id.** No label holds a slash, and
    none begins another. -/
theorem DocumentKey.eq_of_uid_eq {k l : DocumentKey} (hi : k.index = l.index)
    (h : k.uid = l.uid) : k = l := by
  obtain ⟨index, kind, id⟩ := k
  obtain ⟨index', kind', id'⟩ := l
  obtain rfl : index = index' := hi
  have hchars := congrArg String.toList h
  simp only [DocumentKey.uid, String.toList_append, List.append_assoc,
    List.append_cancel_left_eq] at hchars
  have hparts : kind = kind' ∧ id.toList = id'.toList := by
    cases kind <;> cases kind' <;> simp [Kind.label] at hchars ⊢ <;> exact hchars
  rw [hparts.1, String.toList_inj.mp hparts.2]

namespace Search.Index

/-- The documents whose key is written in a way. -/
def held (x : Index) (uid : String) : List Request := x.filter (·.uid = uid)

theorem mem_held {x : Index} {uid : String} {r : Request} :
    r ∈ x.held uid ↔ r ∈ x ∧ r.uid = uid := by simp [held]

theorem mem_iff_mem_held {x : Index} {r : Request} : r ∈ x ↔ r ∈ x.held r.uid := by
  simp [mem_held]

/-- A short key finds just the documents with it. -/
theorem isUnder_of_short {uid : String} (h : uid.utf8ByteSize ≤ longTerm) (r : Request) :
    isUnder uid r = decide (r.uid = uid) := by
  by_cases hr : r.uid = uid
  · subst hr
    simp [isUnder, asTerm, h]
  · by_cases hs : r.uid.utf8ByteSize ≤ longTerm <;> simp [isUnder, asTerm, hs, hr]

/-- A long key finds nothing. -/
theorem isUnder_of_long {uid : String} (h : longTerm < uid.utf8ByteSize) (r : Request) :
    isUnder uid r = false := by
  rw [isUnder, asTerm]
  split
  · rename_i hs
    have hne : r.uid ≠ uid := by
      rintro rfl
      omega
    simpa using hne
  · rfl

/-- What is found by a key: what is held under it, if it is short. -/
def found (x : Index) (key : DocumentKey) : List Request :=
  if key.uid.utf8ByteSize ≤ longTerm then x.held key.uid else []

theorem filter_isUnder_eq_found (x : Index) (key : DocumentKey) :
    x.filter (isUnder key.uid) = x.found key := by
  rw [found]
  split
  · rename_i h
    rw [funext (isUnder_of_short h), held]
  · rename_i h
    rw [funext (isUnder_of_long (Nat.not_le.mp h)), List.filter_false]

theorem count_eq_found (x : Index) (key : DocumentKey) : x.count key = (x.found key).length := by
  rw [count, List.countP_eq_length_filter, filter_isUnder_eq_found]

theorem get_eq_found (x : Index) (key : DocumentKey) :
    x.get key = (x.found key).head?.mapM stored := by
  rw [get, ← List.head?_filter, filter_isUnder_eq_found]
  cases (x.found key).head? <;> rfl

/-- **An index is asked by a key through the documents that it holds under it.** -/
theorem found_of_held {x y : Index} {key : DocumentKey}
    (h : key.uid.utf8ByteSize ≤ longTerm → x.held key.uid = y.held key.uid) :
    x.found key = y.found key := by
  rw [found, found]
  split
  · exact h ‹_›
  · rfl

theorem count_of_held {x y : Index} {key : DocumentKey}
    (h : key.uid.utf8ByteSize ≤ longTerm → x.held key.uid = y.held key.uid) :
    x.count key = y.count key := by
  rw [count_eq_found, count_eq_found, found_of_held h]

theorem get_of_held {x y : Index} {key : DocumentKey}
    (h : key.uid.utf8ByteSize ≤ longTerm → x.held key.uid = y.held key.uid) :
    x.get key = y.get key := by
  rw [get_eq_found, get_eq_found, found_of_held h]

/-! ## 2. Writing requests -/

/-- A document remains when requests come after it: they leave its key alone, or it is too long to
    be found by. -/
def remains (later : List Request) (r : Request) : Bool :=
  longTerm < r.uid.utf8ByteSize || later.all (·.uid ≠ r.uid)

/-- The requests that remain when the later ones have come. -/
def lasting : List Request → List Request
  | [] => []
  | r :: rest => if remains rest r then r :: lasting rest else lasting rest

/-- Requests written over an index: what remains of it, and after that what remains of them. -/
def overwritten (x : Index) (requests : List Request) : Index :=
  x.filter (remains requests) ++ lasting requests

theorem remains_cons (r : Request) (rest : List Request) (s : Request) :
    remains (r :: rest) s = (remains rest s && !isUnder r.uid s) := by
  rw [remains, remains, List.all_cons]
  by_cases hs : s.uid.utf8ByteSize ≤ longTerm
  · have hlong : decide (longTerm < s.uid.utf8ByteSize) = false := by simpa using hs
    have hunder : isUnder r.uid s = decide (r.uid = s.uid) := by
      rw [Bool.eq_iff_iff, isUnder_iff hs, decide_eq_true_iff, eq_comm]
    simp [hlong, hunder, Bool.and_comm]
  · have hlong : decide (longTerm < s.uid.utf8ByteSize) = true := by simpa using hs
    simp [isUnder, asTerm, hs, hlong]

theorem applyAll_operations_cons (x : Index) (r : Request) (rest : List Request) :
    x.applyAll (operations (r :: rest)) =
      applyAll (x.filter (fun s => !isUnder r.uid s) ++ [r]) (operations rest) := rfl

/-- **The operations of a batch write its requests over an index.** -/
theorem applyAll_operations (x : Index) (requests : List Request) :
    x.applyAll (operations requests) = x.overwritten requests := by
  -- the first request is in the index for those after it, and remains as what was there does
  induction requests generalizing x with
  | nil =>
      have hall : remains [] = fun _ => true := funext fun r => Bool.or_true _
      rw [overwritten, hall, List.filter_true, lasting, List.append_nil]
      rfl
  | cons r rest ih =>
      have hkept : x.filter (remains (r :: rest)) =
          (x.filter fun s => !isUnder r.uid s).filter (remains rest) := by
        rw [List.filter_filter]
        exact List.filter_congr fun s _ => remains_cons r rest s
      have hlast : lasting (r :: rest) = [r].filter (remains rest) ++ lasting rest := by
        rw [lasting, List.filter_singleton]
        cases remains rest r <;> rfl
      rw [applyAll_operations_cons, ih, overwritten, overwritten, hkept, hlast, List.filter_append,
        List.append_assoc]

/-- Requests with short keys written over an index are written into the map that it holds. -/
theorem Holds.overwritten {x : Index} {m : String → Option Request} (h : x.Holds m)
    {requests : List Request} (hr : ∀ r ∈ requests, r.uid.utf8ByteSize ≤ longTerm) :
    (x.overwritten requests).Holds (upsertsOver m requests) := by
  rw [← Index.applyAll_operations]
  exact h.applyAll_operations hr

theorem applyAll_operations_append (x : Index) (xs ys : List Request) :
    x.applyAll (operations (xs ++ ys)) = (x.applyAll (operations xs)).applyAll (operations ys) := by
  rw [operations, List.flatMap_append, applyAll, List.foldl_append]
  rfl

/-- Removing what is under another key leaves a key's documents alone. -/
theorem held_filter_of_ne {x : Index} {uid other : String} (h : other ≠ uid) :
    held (x.filter fun s => !isUnder other s) uid = x.held uid := by
  rw [held, held, List.filter_filter]
  refine List.filter_congr fun s _ => ?_
  by_cases hs : s.uid = uid
  · have hout : isUnder other s = false := by
      rw [isUnder, asTerm]
      split
      · simpa [hs] using Ne.symm h
      · rfl
    simp [hout]
  · simp [hs]

/-- **The last request with a key takes the place of what was under it.** -/
theorem held_applyAll_operations (x : Index) (requests : List Request) {uid : String}
    (h : uid.utf8ByteSize ≤ longTerm) :
    (x.applyAll (operations requests)).held uid =
      match upserts requests uid with
      | some r => [r]
      | none => x.held uid := by
  rw [upserts_eq_getLast?]
  -- the first request decides only where none after it has the key
  induction requests generalizing x with
  | nil => rfl
  | cons r rest ih =>
      rw [applyAll_operations_cons, ih]
      by_cases hr : r.uid = uid
      · have hout : held (x.filter (fun s => !isUnder r.uid s) ++ [r]) uid = [r] := by
          subst hr
          simp [held, isUnder_of_short h]
        rw [hout, List.filter_cons, if_pos (by simpa using hr), List.getLast?_cons]
        cases (rest.filter (·.uid = uid)).getLast? <;> rfl
      · have hkept : held (x.filter (fun s => !isUnder r.uid s) ++ [r]) uid = x.held uid := by
          rw [held, List.filter_append, ← held, held_filter_of_ne hr]
          simp [hr]
        rw [hkept, List.filter_cons, if_neg (by simpa using hr)]

/-- What is written under a long key stays beside what was there. -/
theorem held_applyAll_operations_of_long (x : Index) (requests : List Request) {uid : String}
    (h : longTerm < uid.utf8ByteSize) :
    (x.applyAll (operations requests)).held uid =
      x.held uid ++ requests.filter (·.uid = uid) := by
  induction requests generalizing x with
  | nil => simp [applyAll, operations]
  | cons r rest ih =>
      rw [applyAll_operations_cons, ih]
      by_cases hr : r.uid = uid
      · subst hr
        simp [held, isUnder_of_long h]
      · have hkept : held (x.filter (fun s => !isUnder r.uid s) ++ [r]) uid = x.held uid := by
          rw [held, List.filter_append, ← held, held_filter_of_ne hr]
          simp [hr]
        rw [hkept, List.filter_cons, if_neg (by simpa using hr)]

/-- Requests that have none with a key leave its documents alone. -/
theorem held_applyAll_operations_of_forall_ne (x : Index) {requests : List Request} {uid : String}
    (h : ∀ r ∈ requests, r.uid ≠ uid) :
    (x.applyAll (operations requests)).held uid = x.held uid := by
  have hnone : requests.filter (·.uid = uid) = [] :=
    List.filter_eq_nil_iff.mpr fun r hr => by simpa using h r hr
  by_cases hu : uid.utf8ByteSize ≤ longTerm
  · rw [held_applyAll_operations x requests hu, upserts_eq_getLast?, hnone]
    rfl
  · rw [held_applyAll_operations_of_long x requests (by omega), hnone, List.append_nil]

/-- **What is under a key depends on the requests with that key**, and on their order. -/
theorem held_applyAll_congr (x : Index) {xs ys : List Request} {uid : String}
    (h : xs.filter (·.uid = uid) = ys.filter (·.uid = uid)) :
    (x.applyAll (operations xs)).held uid = (x.applyAll (operations ys)).held uid := by
  by_cases hu : uid.utf8ByteSize ≤ longTerm
  · rw [held_applyAll_operations x xs hu, held_applyAll_operations x ys hu, upserts_eq_getLast?,
      upserts_eq_getLast?, h]
  · rw [held_applyAll_operations_of_long x xs (by omega),
      held_applyAll_operations_of_long x ys (by omega), h]

/-! ## 3. The same documents -/

open Classical in
/-- Indexes that hold the same under every key have the same documents, each as often. -/
theorem perm_of_held {x y : Index} (h : ∀ uid, x.held uid = y.held uid) : x.Perm y := by
  refine List.perm_iff_count.mpr fun r => ?_
  have hcount : ∀ z : Index, List.count r z = List.count r (z.held r.uid) := fun z =>
    (List.count_filter (by simp)).symm
  rw [hcount x, hcount y, h]

/-- **Two indexes hold the same documents under the same keys.** Under a key that is no longer than
    a term they hold the same list of documents; documents under a longer key, which are never
    replaced, may be there in more copies in the one than in the other. -/
structure SameDocuments (x y : Index) : Prop where
  held : ∀ uid : String, uid.utf8ByteSize ≤ longTerm → x.held uid = y.held uid
  mem_iff : ∀ r, r ∈ x ↔ r ∈ y

namespace SameDocuments

variable {x y : Index}

theorem refl (x : Index) : x.SameDocuments x := ⟨fun _ _ => rfl, fun _ => Iff.rfl⟩

/-- **Under every key the same number of documents is found.** -/
theorem count_eq (h : x.SameDocuments y) (key : DocumentKey) : x.count key = y.count key :=
  count_of_held (h.held key.uid)

/-- **Under every key the same document is found.** -/
theorem get_eq (h : x.SameDocuments y) (key : DocumentKey) : x.get key = y.get key :=
  get_of_held (h.held key.uid)

/-- **Where no key is longer than a term, the documents are the same, each as often.** -/
theorem perm (h : x.SameDocuments y) (hx : ∀ r ∈ x, r.uid.utf8ByteSize ≤ longTerm) :
    x.Perm y := by
  refine perm_of_held fun uid => ?_
  by_cases hu : uid.utf8ByteSize ≤ longTerm
  · exact h.held uid hu
  · have hnone : ∀ r ∈ x, ¬ r.uid = uid := fun r hr e => hu (e ▸ hx r hr)
    rw [Index.held, Index.held, List.filter_eq_nil_iff.mpr (by simpa using hnone),
      List.filter_eq_nil_iff.mpr (by simpa [← h.mem_iff] using hnone)]

end SameDocuments

/-- A request makes its key one that is asked for. -/
theorem exists_upserts_of_mem {requests : List Request} {r : Request} (h : r ∈ requests) :
    ∃ last, upserts requests r.uid = some last :=
  Option.isSome_iff_exists.mp ((upserts_isSome_iff requests r.uid).mpr (List.mem_map_of_mem h))

/-- **What requests leave behind depends on which they are, and which is the last under each key.** -/
theorem sameDocuments_applyAll_iff (x : Index) {xs ys : List Request} (hmem : ∀ r, r ∈ xs ↔ r ∈ ys) :
    SameDocuments (x.applyAll (operations xs)) (x.applyAll (operations ys)) ↔
      ∀ r ∈ xs, r.uid.utf8ByteSize ≤ longTerm → upserts xs r.uid = upserts ys r.uid := by
  constructor
  · intro h r hr hu
    obtain ⟨a, ha⟩ := exists_upserts_of_mem hr
    obtain ⟨b, hb⟩ := exists_upserts_of_mem ((hmem r).mp hr)
    have hheld := h.held r.uid hu
    rw [held_applyAll_operations x xs hu, held_applyAll_operations x ys hu, ha, hb] at hheld
    rw [ha, hb, List.singleton_inj.mp hheld]
  · intro hlast
    have hheld : ∀ uid : String, uid.utf8ByteSize ≤ longTerm →
        (x.applyAll (operations xs)).held uid = (x.applyAll (operations ys)).held uid := by
      intro uid hu
      by_cases hasked : ∃ r ∈ xs, r.uid = uid
      · obtain ⟨r, hr, rfl⟩ := hasked
        rw [held_applyAll_operations x xs hu, held_applyAll_operations x ys hu, hlast r hr hu]
      · have hnone : ∀ r ∈ xs, r.uid ≠ uid := fun r hr e => hasked ⟨r, hr, e⟩
        rw [held_applyAll_operations_of_forall_ne x hnone,
          held_applyAll_operations_of_forall_ne x fun r hr => hnone r ((hmem r).mpr hr)]
    refine ⟨hheld, fun r => ?_⟩
    rw [mem_iff_mem_held, mem_iff_mem_held (x := x.applyAll (operations ys))]
    by_cases hr : r.uid.utf8ByteSize ≤ longTerm
    · rw [hheld r.uid hr]
    · rw [held_applyAll_operations_of_long x xs (by omega),
        held_applyAll_operations_of_long x ys (by omega), List.mem_append, List.mem_append,
        List.mem_filter, List.mem_filter, hmem]

end Search.Index

/-! ## 4. Batches that an engine writes -/

namespace Search.IndexDirectory

variable {d d₁ d₂ : IndexDirectory} {n : Nat} {xs ys : List Request}

/-- An engine that may write is open. -/
theorem exists_engine_of_mayWrite (h : d.writeFailure? n = none) : ∃ e, d.engine? n = some e := by
  cases he : d.engine? n with
  | none => simp [writeFailure?, he] at h
  | some e => exact ⟨e, rfl⟩

/-- An open engine that is the one to write may write. -/
theorem mayWrite_of_holder {e : Engine} (he : d.engine? n = some e) (hh : d.holder = some n) :
    d.writeFailure? n = none := by
  rw [writeFailure?, he, hh]
  exact if_pos rfl

/-- An engine that may write takes what it is given, and may write then too. -/
theorem submit_of_mayWrite (h : d.writeFailure? n = none) (batch : List Request) :
    (d.submit n batch).1 = .ok batch.length ∧ (d.submit n batch).2.writeFailure? n = none := by
  obtain ⟨e, he⟩ := exists_engine_of_mayWrite h
  simp only [submit, submitWith, h]
  exact ⟨trivial, mayWrite_of_holder (engine?_refresh (e := e) he) (holder_refresh _ _)⟩

/-- An engine has written requests over an index: over what was published, and what was queued. -/
structure Written (d : IndexDirectory) (n : Nat) (requests : List Request)
    (after : IndexDirectory) : Prop where
  published : after.published = (d.published.applyAll d.queued).applyAll (operations requests)
  queued : after.queued = []
  view : after.view n = after.published

/-- A batch that is taken is written. -/
theorem written_of_submit {batch : List Request} {count : Nat}
    (h : (d.submit n batch).1 = .ok count) : Written d n batch (d.submit n batch).2 := by
  cases hw : d.writeFailure? n with
  | some f =>
      rw [submit, submitWith, hw] at h
      cases h
  | none =>
      obtain ⟨e, he⟩ := exists_engine_of_mayWrite hw
      simp only [submit, submitWith, hw]
      refine ⟨?_, ?_, ?_⟩
      · rw [published_refresh]
        exact List.foldl_append
      · rw [queued_refresh]
        rfl
      · rw [published_refresh]
        exact view_refresh (e := e) he

theorem Written.append (hx : Written d n xs d₁) (hy : Written d₁ n ys d₂) :
    Written d n (xs ++ ys) d₂ where
  published := by
    rw [hy.published, hx.published, hx.queued, Index.applyAll_operations_append]
    rfl
  queued := hy.queued
  view := hy.view

end Search.IndexDirectory

end LabIndex
