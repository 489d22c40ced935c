import LabIndex.Indexing.Run
import Mathlib.Data.List.Basic

/-!
# The batches of a run

A run is described without its loop. The rows that it reads give a list of requests, those of the
leading rows that are documents; the requests are cut into consecutive batches of the threshold's
size; and the batches go to the backend one after the other, whatever it answers.

* `batchesOf`: a list cut into consecutive pieces, with its laws (`flatten_batchesOf`,
  `length_batchesOf`, `length_of_mem_dropLast_batchesOf`);
* `Backend.submitAll`: batches submitted in order;
* `Indexing.run_eq`: a run is `submitAll` of `batchesOf` of its requests;
* `Indexing.run_submits_consecutive_batches`: the same said of rows, with the fate of each batch
  and the cause that stopped the reading.

The loop's invariant is `readRows_eq`: what waits is a batch that is not full, and sending it after
the remaining requests is sending all of them.
-/

namespace LabIndex

/-! ## 1. Consecutive pieces -/

/-- A list cut into consecutive pieces of a size, of which the last may be shorter. -/
def batchesOf {α : Type} (size : Nat) : List α → List (List α)
  | [] => []
  | x :: rest => (x :: rest.take (size - 1)) :: batchesOf size (rest.drop (size - 1))
termination_by xs => xs.length

section Pieces

variable {α : Type} {size : Nat}

@[simp] theorem batchesOf_nil : batchesOf size ([] : List α) = [] := by rw [batchesOf]

theorem batchesOf_cons (x : α) (rest : List α) :
    batchesOf size (x :: rest) =
      (x :: rest.take (size - 1)) :: batchesOf size (rest.drop (size - 1)) := by rw [batchesOf]

/-- A full piece in front is a batch of its own. -/
theorem batchesOf_append (h : 0 < size) {piece : List α} (hp : piece.length = size)
    (rest : List α) : batchesOf size (piece ++ rest) = piece :: batchesOf size rest := by
  cases piece with
  | nil => simp at hp; omega
  | cons x tail =>
      have ht : tail.length = size - 1 := by simp at hp; omega
      rw [List.cons_append, batchesOf_cons, ← ht, List.take_left, List.drop_left]

/-- What does not overfill a batch is one batch. -/
theorem batchesOf_of_length_le {xs : List α} (hne : xs ≠ []) (h : xs.length ≤ size) :
    batchesOf size xs = [xs] := by
  cases xs with
  | nil => exact absurd rfl hne
  | cons x rest =>
      have hr : rest.length ≤ size - 1 := by simp at h; omega
      rw [batchesOf_cons, List.take_of_length_le hr, List.drop_eq_nil_of_le hr, batchesOf_nil]

/-- **Nothing is lost, repeated or moved.** -/
@[simp] theorem flatten_batchesOf (xs : List α) : (batchesOf size xs).flatten = xs := by
  induction xs using batchesOf.induct size with
  | case1 => simp
  | case2 x rest ih => rw [batchesOf_cons, List.flatten_cons, ih, List.cons_append,
      List.take_append_drop]

theorem batchesOf_eq_nil_iff {xs : List α} : batchesOf size xs = [] ↔ xs = [] := by
  cases xs <;> simp [batchesOf_cons]

theorem length_of_mem_batchesOf (h : 0 < size) {xs piece : List α} (hp : piece ∈ batchesOf size xs) :
    piece ≠ [] ∧ piece.length ≤ size := by
  induction xs using batchesOf.induct size with
  | case1 => simp at hp
  | case2 x rest ih =>
      rw [batchesOf_cons] at hp
      rcases List.mem_cons.mp hp with rfl | hp
      · refine ⟨List.cons_ne_nil _ _, ?_⟩
        rw [List.length_cons, List.length_take]
        omega
      · exact ih hp

/-- Only the last piece may be short. -/
theorem length_of_mem_dropLast_batchesOf (h : 0 < size) {xs piece : List α}
    (hp : piece ∈ (batchesOf size xs).dropLast) : piece.length = size := by
  induction xs using batchesOf.induct size with
  | case1 => simp at hp
  | case2 x rest ih =>
      rw [batchesOf_cons] at hp
      by_cases hr : rest.drop (size - 1) = []
      · rw [hr, batchesOf_nil] at hp
        simp at hp
      · rw [List.dropLast_cons_of_ne_nil (fun e => hr (batchesOf_eq_nil_iff.mp e))] at hp
        rcases List.mem_cons.mp hp with rfl | hp
        · have hl : ¬ rest.length ≤ size - 1 := fun e => hr (List.drop_eq_nil_of_le e)
          rw [List.length_cons, List.length_take]
          omega
        · exact ih hp

/-- The number of batches is the number of elements over the size, rounded up. -/
theorem length_batchesOf (h : 0 < size) (xs : List α) :
    (batchesOf size xs).length = (xs.length + size - 1) / size := by
  induction xs using batchesOf.induct size with
  | case1 =>
      rw [batchesOf_nil, List.length_nil, List.length_nil, Nat.zero_add]
      exact (Nat.div_eq_of_lt (by omega)).symm
  | case2 x rest ih =>
      rw [batchesOf_cons, List.length_cons, ih, List.length_drop, List.length_cons]
      by_cases hr : rest.length < size
      · have hone : rest.length - (size - 1) + size - 1 = size - 1 := by omega
        rw [hone, Nat.div_eq_of_lt (by omega), Nat.zero_add]
        exact (Nat.div_eq_of_lt_le (by omega) (by omega)).symm
      · have hall : rest.length + 1 + size - 1 = (rest.length - (size - 1) + size - 1) + size := by
          omega
        rw [hall, Nat.add_div_right _ h]

/-- Batches hold these requests, in order and without loss or repetition: as few as there can be,
    none empty, and only the last not full. -/
structure ConsecutiveBatches (size : Nat) (requests : List α) (batches : List (List α)) : Prop where
  flatten : batches.flatten = requests
  count : batches.length = (requests.length + size - 1) / size
  bounded : ∀ batch ∈ batches, batch ≠ [] ∧ batch.length ≤ size
  full : ∀ batch ∈ batches.dropLast, batch.length = size

theorem consecutiveBatches_batchesOf (h : 0 < size) (xs : List α) :
    ConsecutiveBatches size xs (batchesOf size xs) where
  flatten := flatten_batchesOf xs
  count := length_batchesOf h xs
  bounded _ := length_of_mem_batchesOf h
  full _ := length_of_mem_dropLast_batchesOf h

/-- **There is one way to cut requests into such batches.** -/
theorem ConsecutiveBatches.eq_batchesOf (h : 0 < size) {requests : List α}
    {batches : List (List α)} (hb : ConsecutiveBatches size requests batches) :
    batches = batchesOf size requests := by
  obtain ⟨rfl, -, hbounded, hfull⟩ := hb
  induction batches with
  | nil => rw [List.flatten_nil, batchesOf_nil]
  | cons batch rest ih =>
      obtain ⟨⟨hne, hle⟩, hrest⟩ := List.forall_mem_cons.mp hbounded
      rw [List.flatten_cons]
      by_cases hlast : rest = []
      · rw [hlast, List.flatten_nil, List.append_nil, batchesOf_of_length_le hne hle]
      · rw [List.dropLast_cons_of_ne_nil hlast] at hfull
        obtain ⟨hlength, hmore⟩ := List.forall_mem_cons.mp hfull
        rw [batchesOf_append h hlength, ← ih hrest hmore]

end Pieces

/-! ## 2. Batches handed to a backend -/

/-- Submits batches in order: the answers, and the state after the last. -/
def Backend.submitAll {σ : Type} (b : Backend σ) :
    σ → List (List Request) → List (Except Failure Nat) × σ
  | state, [] => ([], state)
  | state, batch :: rest =>
    let (answer, state) := b.submit state batch
    let (answers, state) := b.submitAll state rest
    (answer :: answers, state)

/-- The same backend with a log of the batches that it was handed, taken or not. -/
def Backend.logged {σ : Type} (b : Backend σ) : Backend (σ × List (List Request)) :=
  ⟨fun (state, log) batch =>
    let (answer, state) := b.submit state batch
    (answer, (state, log ++ [batch]))⟩

/-- The fate of a batch that was answered in a way. -/
def BatchOutcome.ofAnswer (batch : List Request) : Except Failure Nat → BatchOutcome
  | .ok _ => ⟨batch.map (·.id), true, none⟩
  | .error f => ⟨batch.map (·.id), false, some f.message⟩

section Submitting

variable {σ : Type} (b : Backend σ) (state : σ)

@[simp] theorem submitAll_nil : b.submitAll state [] = ([], state) := rfl

theorem submitAll_cons (batch : List Request) (rest : List (List Request)) :
    b.submitAll state (batch :: rest) =
      ((b.submit state batch).1 :: (b.submitAll (b.submit state batch).2 rest).1,
        (b.submitAll (b.submit state batch).2 rest).2) := rfl

@[simp] theorem length_submitAll (batches : List (List Request)) :
    (b.submitAll state batches).1.length = batches.length := by
  induction batches generalizing state with
  | nil => rfl
  | cons batch rest ih => rw [submitAll_cons, List.length_cons, List.length_cons, ih]

/-- **The log holds the batches in the order in which they were submitted**, and answers and state
    are those of the backend itself. -/
theorem submitAll_logged (log batches : List (List Request)) :
    b.logged.submitAll (state, log) batches =
      ((b.submitAll state batches).1, ((b.submitAll state batches).2, log ++ batches)) := by
  induction batches generalizing state log with
  | nil => simp
  | cons batch rest ih =>
      rw [submitAll_cons, submitAll_cons]
      simp only [Backend.logged] at ih ⊢
      rw [ih, List.append_assoc, List.singleton_append]

end Submitting

namespace Indexing

/-! ## 3. What the rows give -/

/-- The requests of the leading rows that are documents. -/
def requests (x : Indexing) : List Json → List Request
  | [] => []
  | row :: rest =>
    match x.prepare row with
    | .ok r => r :: x.requests rest
    | .error _ => []

/-- Why the first row that is no document is none. -/
def fault? (x : Indexing) : List Json → Option Failure
  | [] => none
  | row :: rest =>
    match x.prepare row with
    | .ok _ => x.fault? rest
    | .error f => some f

section Rows

variable (x : Indexing) {row : Json} {r : Request} {f : Failure}

@[simp] theorem fault?_nil : x.fault? [] = none := rfl

theorem requests_cons_ok (h : x.prepare row = .ok r) (rest : List Json) :
    x.requests (row :: rest) = r :: x.requests rest := by simp [requests, h]

theorem requests_cons_error (h : x.prepare row = .error f) (rest : List Json) :
    x.requests (row :: rest) = [] := by simp [requests, h]

theorem fault?_cons_ok (h : x.prepare row = .ok r) (rest : List Json) :
    x.fault? (row :: rest) = x.fault? rest := by simp [fault?, h]

theorem fault?_cons_error (h : x.prepare row = .error f) (rest : List Json) :
    x.fault? (row :: rest) = some f := by simp [fault?, h]

/-- The requests are those of as many leading rows. -/
theorem map_prepare_take (rows : List Json) :
    (rows.take (x.requests rows).length).map x.prepare = (x.requests rows).map .ok := by
  induction rows with
  | nil => rfl
  | cons row rest ih =>
      cases h : x.prepare row with
      | error f => rw [requests_cons_error x h]; rfl
      | ok r =>
          rw [requests_cons_ok x h, List.length_cons, List.take_succ_cons, List.map_cons,
            List.map_cons, h, ih]

/-- **The row after the leading documents is the one at fault**, and there is none exactly when
    no row is at fault. -/
theorem prepare_at_length (rows : List Json) :
    (rows[(x.requests rows).length]?).map x.prepare = (x.fault? rows).map .error := by
  induction rows with
  | nil => rfl
  | cons row rest ih =>
      cases h : x.prepare row with
      | error f =>
          rw [requests_cons_error x h, fault?_cons_error x h, List.length_nil,
            List.getElem?_cons_zero, Option.map_some, Option.map_some, h]
      | ok r =>
          rw [requests_cons_ok x h, fault?_cons_ok x h, List.length_cons, List.getElem?_cons_succ, ih]

/-- **No other requests and fault are those of the rows.** -/
theorem eq_requests_of_prepare {rows : List Json} {requests : List Request} {fault : Option Failure}
    (hrequests : (rows.take requests.length).map x.prepare = requests.map .ok)
    (hfault : (rows[requests.length]?).map x.prepare = fault.map .error) :
    requests = x.requests rows ∧ fault = x.fault? rows := by
  induction rows generalizing requests with
  | nil =>
      rw [List.take_nil, List.map_nil] at hrequests
      obtain rfl := List.map_eq_nil_iff.mp hrequests.symm
      rw [List.getElem?_nil, Option.map_none] at hfault
      exact ⟨rfl, Option.map_eq_none_iff.mp hfault.symm⟩
  | cons row rest ih =>
      cases requests with
      | nil =>
          rw [List.length_nil, List.getElem?_cons_zero, Option.map_some] at hfault
          obtain ⟨f, rfl, hf⟩ := Option.map_eq_some_iff.mp hfault.symm
          rw [requests_cons_error x hf.symm, fault?_cons_error x hf.symm]
          exact ⟨rfl, rfl⟩
      | cons r others =>
          rw [List.length_cons, List.take_succ_cons, List.map_cons, List.map_cons] at hrequests
          rw [List.length_cons, List.getElem?_cons_succ] at hfault
          obtain ⟨hr, hothers⟩ := List.cons.inj hrequests
          obtain ⟨rfl, rfl⟩ := ih hothers hfault
          rw [requests_cons_ok x hr, fault?_cons_ok x hr]
          exact ⟨rfl, rfl⟩

end Rows

/-! ## 4. The loop -/

section Loop

variable {σ : Type} (b : Backend σ)

theorem flush_eq (p : Progress σ) :
    flush b p = ⟨(b.submit p.state p.pending.toList).2, #[], p.total,
      p.batches.push (.ofAnswer p.pending.toList (b.submit p.state p.pending.toList).1)⟩ := by
  simp only [flush]
  cases (b.submit p.state p.pending.toList).1 <;> rfl

/-- What is left goes out at the end. -/
def finish (p : Progress σ) : Progress σ := if p.pending.isEmpty then p else flush b p

/-- A run that has come to `p` and has yet to send `requests` in batches ends here. -/
def settle (size : Nat) (p : Progress σ) (requests : List Request) : Progress σ :=
  let batches := batchesOf size (p.pending.toList ++ requests)
  let (answers, state) := b.submitAll p.state batches
  ⟨state, #[], p.total + requests.length,
    p.batches ++ (List.zipWith BatchOutcome.ofAnswer batches answers).toArray⟩

theorem finish_eq_settle {size : Nat} {p : Progress σ} (h : p.pending.size ≤ size) :
    finish b p = settle b size p [] := by
  obtain ⟨state, pending, total, batches⟩ := p
  by_cases hp : pending = #[]
  · subst hp
    simp [finish, settle]
  · have hl : pending.toList ≠ [] := by simpa using hp
    have he : pending.isEmpty = false := by simpa using hp
    have hb : batchesOf size pending.toList = [pending.toList] :=
      batchesOf_of_length_le hl (by simpa using h)
    simp [finish, settle, he, hb, flush_eq, submitAll_cons]

/-- Taking up a request is taking it off those yet to come. -/
theorem settle_add {size : Nat} (hs : 0 < size) {p : Progress σ} (h : p.pending.size < size)
    (r : Request) (rest : List Request) :
    settle b size (add b size p r) rest = settle b size p (r :: rest) ∧
      (add b size p r).pending.size < size := by
  obtain ⟨state, pending, total, batches⟩ := p
  simp only at h
  simp only [add]
  split
  · rename_i hfull
    have hl : (pending.toList ++ [r]).length = size := by
      simp at hfull ⊢
      omega
    have hb : batchesOf size (pending.toList ++ r :: rest) =
        (pending.toList ++ [r]) :: batchesOf size rest := by
      rw [← batchesOf_append hs hl, List.append_assoc, List.singleton_append]
    refine ⟨?_, by simpa [flush_eq] using hs⟩
    simp [settle, flush_eq, hb, submitAll_cons]
    omega
  · rename_i hshort
    refine ⟨?_, by simpa using hshort⟩
    simp [settle]
    omega

/-- **The loop's invariant.** -/
theorem readRows_eq (x : Indexing) (hs : 0 < x.maxCount) (rows : List Json) (p : Progress σ)
    (h : p.pending.size < x.maxCount) :
    finish b (x.readRows b rows p).1 = settle b x.maxCount p (x.requests rows) ∧
      (x.readRows b rows p).2 = x.fault? rows := by
  induction rows generalizing p with
  | nil => exact ⟨finish_eq_settle b (Nat.le_of_lt h), rfl⟩
  | cons row rest ih =>
      cases hr : x.prepare row with
      | error f =>
          simp only [readRows, hr]
          rw [requests_cons_error x hr, fault?_cons_error x hr]
          exact ⟨finish_eq_settle b (Nat.le_of_lt h), rfl⟩
      | ok r =>
          obtain ⟨hset, hlt⟩ := settle_add b hs h r (x.requests rest)
          simp only [readRows, hr]
          rw [requests_cons_ok x hr, fault?_cons_ok x hr, ← hset]
          exact ih _ hlt

/-- **A run is the submission of the batches of its requests.** -/
theorem run_eq (x : Indexing) (hs : 0 < x.maxCount) (state : σ) {rows : List Json}
    {failure : Option Failure} (h : x.source.execute x.query = .ok ⟨rows, failure⟩) :
    x.run b state =
      let batches := batchesOf x.maxCount (x.requests rows)
      let (answers, after) := b.submitAll state batches
      (.ok ⟨x.kind, (x.requests rows).length, List.zipWith BatchOutcome.ofAnswer batches answers,
        (x.fault? rows).or failure⟩, after) := by
  obtain ⟨hp, hbad⟩ := readRows_eq b x hs rows ⟨state, #[], 0, #[]⟩ hs
  have hrun : x.run b state =
      (.ok ⟨x.kind, (finish b (x.readRows b rows ⟨state, #[], 0, #[]⟩).1).total,
        (finish b (x.readRows b rows ⟨state, #[], 0, #[]⟩).1).batches.toList,
        (x.readRows b rows ⟨state, #[], 0, #[]⟩).2.or failure⟩,
        (finish b (x.readRows b rows ⟨state, #[], 0, #[]⟩).1).state) := by
    simp only [run, h]
    rfl
  rw [hrun, hp, hbad]
  simp [settle]

/-- A run sees no more of its source than the answer to its query. -/
theorem run_of_source (x : Indexing) {src : Source}
    (h : src.execute x.query = x.source.execute x.query) (state : σ) :
    { x with source := src }.run b state = x.run b state := by
  have hread : ∀ rows p, readRows { x with source := src } b rows p = x.readRows b rows p := by
    intro rows
    induction rows with
    | nil => intro p; rfl
    | cons row rest ih =>
        intro p
        simp only [readRows, ih]
        rfl
  simp only [run, hread, h]

end Loop

/-! ## 5. Runs -/

/-- **A run submits the requests of the leading documents in consecutive batches.** The rows that
    are read fix the requests, the batches and what stopped the reading; every backend is handed
    these batches whatever it answers, as a log of it shows, and the report notes its answers batch
    by batch. -/
theorem run_submits_consecutive_batches (x : Indexing) (threshold : Nat) {rows : List Json}
    {failure : Option Failure} (h : x.source.execute x.query = .ok ⟨rows, failure⟩) :
    ∃ (requests : List Request) (fault : Option Failure) (batches : List (List Request)),
      (rows.take requests.length).map x.prepare = requests.map .ok ∧
      (rows[requests.length]?).map x.prepare = fault.map .error ∧
      ConsecutiveBatches (max threshold 1) requests batches ∧
      ∀ {σ : Type} (b : Backend σ) (state : σ),
        { x with maxCount := atLeastOne threshold }.run b state =
          (.ok ⟨x.kind, requests.length,
            List.zipWith BatchOutcome.ofAnswer batches (b.submitAll state batches).1,
            fault.or failure⟩, (b.submitAll state batches).2) ∧
        ({ x with maxCount := atLeastOne threshold }.run b.logged (state, [])).2 =
          ((b.submitAll state batches).2, batches) := by
  have hs : 0 < atLeastOne threshold := by simp only [atLeastOne]; omega
  let y : Indexing := { x with maxCount := atLeastOne threshold }
  refine ⟨y.requests rows, y.fault? rows, batchesOf y.maxCount (y.requests rows),
    map_prepare_take y rows, prepare_at_length y rows, consecutiveBatches_batchesOf hs _,
    fun b state => ⟨run_eq b y hs state h, ?_⟩⟩
  have hlogged := run_eq b.logged y hs (state, []) h
  simp only [submitAll_logged, List.nil_append] at hlogged
  rw [hlogged]

/-- Rows of which the fourth is no project. -/
def interruptedRows : List Json :=
  [.obj [("id", .str "p-0")], .obj [("id", .str "p-1")], .obj [("id", .str "p-2")],
    .obj [("name", .str "alloy")], .obj [("id", .str "p-4")]]

/-- A run over them whose source stops with a failure. -/
def interruptedRun : Indexing where
  index := "mc"
  kind := .project
  query := .table "projects"
  source := ⟨fun _ => .ok ⟨interruptedRows, some (.cursor "connection reset")⟩⟩

/-- The request for a project of which nothing but its id is known. -/
def bareProject (id : String) : Request :=
  ⟨"mc", .project, id, .obj [("_type", .str "project"), ("birthtime", .null), ("datadir", .str ""),
    ("description", .str ""), ("id", .str id), ("mtime", .null), ("name", .str ""),
    ("owner", .str "")]⟩

/-- Two projects go out together and the third alone; the fourth row stops the reading, before the
    source would have failed. -/
theorem interruptedRun_submits_consecutive_batches :
    let batches := [[bareProject "p-0", bareProject "p-1"], [bareProject "p-2"]]
    interruptedRun.source.execute interruptedRun.query =
        .ok ⟨interruptedRows, some (.cursor "connection reset")⟩ ∧
      ∀ {σ : Type} (b : Backend σ) (state : σ),
        { interruptedRun with maxCount := atLeastOne 2 }.run b state =
          (.ok ⟨.project, 3, List.zipWith BatchOutcome.ofAnswer batches (b.submitAll state batches).1,
            some (.decode "project" "missing field `id`")⟩, (b.submitAll state batches).2) ∧
        ({ interruptedRun with maxCount := atLeastOne 2 }.run b.logged (state, [])).2 =
          ((b.submitAll state batches).2, batches) := by
  intro batches
  have hrequests : interruptedRun.requests interruptedRows =
      [bareProject "p-0", bareProject "p-1", bareProject "p-2"] := by rfl
  have hfault : interruptedRun.fault? interruptedRows =
      some (.decode "project" "missing field `id`") := by decide
  have hexecute : interruptedRun.source.execute interruptedRun.query =
      .ok ⟨interruptedRows, some (.cursor "connection reset")⟩ := rfl
  obtain ⟨requests, fault, cut, hprepared, hstopped, hcut, hrun⟩ :=
    run_submits_consecutive_batches interruptedRun 2 hexecute
  obtain ⟨rfl, rfl⟩ := eq_requests_of_prepare interruptedRun hprepared hstopped
  have hbatches : cut = batches := by
    rw [hcut.eq_batchesOf (by decide), hrequests]
    simp [batchesOf_cons, batches]
  rw [hrequests, hfault, hbatches] at hrun
  exact ⟨hexecute, hrun⟩

/-- The backend takes every batch but the second. -/
example :
    ({ interruptedRun with maxCount := 2 }.run ⟨fun n batch =>
      (if n = 1 then .error (.bulkSubmit "rejected") else .ok batch.length, n + 1)⟩ 0) =
      (.ok ⟨.project, 3, [⟨["p-0", "p-1"], true, none⟩,
        ⟨["p-2"], false, some "Bulk submission failed: rejected"⟩],
        some (.decode "project" "missing field `id`")⟩, 2) := by decide +kernel

end Indexing

end LabIndex
