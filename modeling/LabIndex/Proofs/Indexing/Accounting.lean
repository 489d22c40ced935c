import LabIndex.Proofs.Indexing.Rows

/-!
# The accounts of a run

A report says how many documents were read, how many were taken and which were not, and turns into a
failure unless the run was complete. These figures are taken in different ways: the number read is
counted row by row, the rest is read off the batches. They agree because every document that is read
goes out in one batch and no batch is empty.

* `Report.failure?_eq_none_iff_isComplete`: a report without an empty batch turns into a failure
  exactly when it is not complete;
* `Backend.refusals`: a backend with a log of what it refuses, with `submitAll_refusals`;
* `Indexing.run_accounts`: the figures of every run, against the rows that it reads and the log of
  its backend.
-/

namespace LabIndex

/-! ## 1. Reports -/

namespace Report

/-- **What was taken and what was not is what the batches hold.** -/
theorem committed_add_length_failedIds (r : Report) :
    r.committed + r.failedIds.length = (r.batches.flatMap (·.ids)).length := by
  have hperm := List.filter_append_perm (·.committed) r.batches
  calc r.committed + r.failedIds.length
      = ((r.batches.filter (·.committed) ++ r.batches.filter (!·.committed)).flatMap
          (·.ids)).length := by
        rw [List.flatMap_append, List.length_append, committed, failedIds]
    _ = (r.batches.flatMap (·.ids)).length := (hperm.flatMap_right _).length_eq

theorem isComplete_iff (r : Report) :
    r.isComplete = true ↔ r.cursorError = none ∧ ∀ o ∈ r.batches, o.committed = true := by
  rw [isComplete, Bool.and_eq_true, Option.isNone_iff_eq_none, List.all_eq_true]

/-- A report turns into a failure for what stopped the reading, or else for the ids that failed. -/
theorem failure?_eq_none_iff (r : Report) :
    r.failure? = none ↔ r.cursorError = none ∧ r.failedIds = [] := by
  rw [failure?]
  cases r.cursorError with
  | some f => simp
  | none => simp

/-- Where no batch is empty, one that was not taken shows by its ids. -/
theorem failedIds_eq_nil_iff {r : Report} (h : ∀ o ∈ r.batches, o.ids ≠ []) :
    r.failedIds = [] ↔ ∀ o ∈ r.batches, o.committed = true := by
  rw [failedIds, List.flatMap_eq_nil_iff]
  constructor
  · intro hids o ho
    by_contra hc
    exact h o ho (hids o (List.mem_filter.mpr ⟨ho, by simpa using hc⟩))
  · intro hall o ho
    obtain ⟨hmem, hc⟩ := List.mem_filter.mp ho
    rw [hall o hmem] at hc
    cases hc

/-- **A report turns into a failure exactly when it is not complete**, if it has no empty batch. -/
theorem failure?_eq_none_iff_isComplete {r : Report} (h : ∀ o ∈ r.batches, o.ids ≠ []) :
    r.failure? = none ↔ r.isComplete = true := by
  rw [failure?_eq_none_iff, isComplete_iff, failedIds_eq_nil_iff h]

end Report

/-! ## 2. What a backend refuses -/

/-- The same backend with a log of the batches that it refused. -/
def Backend.refusals {σ : Type} (b : Backend σ) : Backend (σ × List (List Request)) :=
  ⟨fun (state, log) batch =>
    match b.submit state batch with
    | (.ok n, state) => (.ok n, (state, log))
    | (.error f, state) => (.error f, (state, log ++ [batch]))⟩

/-- **Outcomes account for batches**, some of which were refused. -/
structure BatchOutcome.Account (batches refused : List (List Request))
    (outcomes : List BatchOutcome) : Prop where
  /-- All documents are named, in order. -/
  ids : outcomes.flatMap (·.ids) = batches.flatten.map (·.id)
  /-- What was not taken is what was refused, in order. -/
  failed : (outcomes.filter (!·.committed)).flatMap (·.ids) = refused.flatten.map (·.id)
  taken : (∀ o ∈ outcomes, o.committed = true) ↔ refused = []
  named : ∀ o ∈ outcomes, ∃ batch ∈ batches, o.ids = batch.map (·.id)

namespace BatchOutcome

@[simp] theorem ids_ofAnswer (batch : List Request) (answer : Except Failure Nat) :
    (ofAnswer batch answer).ids = batch.map (·.id) := by
  cases answer <;> rfl

namespace Account

variable {batches refused : List (List Request)} {outcomes : List BatchOutcome}

theorem nil : Account [] [] [] := ⟨rfl, rfl, by simp, by simp⟩

/-- One more batch, whatever the answer to it, names its own documents. -/
theorem named_cons (h : Account batches refused outcomes) (batch : List Request)
    (answer : Except Failure Nat) :
    ∀ o ∈ ofAnswer batch answer :: outcomes,
      ∃ other ∈ batch :: batches, o.ids = other.map (·.id) := by
  rw [List.forall_mem_cons]
  refine ⟨⟨batch, List.mem_cons_self, ids_ofAnswer batch answer⟩, fun o ho => ?_⟩
  obtain ⟨other, hother, hids⟩ := h.named o ho
  exact ⟨other, List.mem_cons_of_mem batch hother, hids⟩

theorem ids_cons (h : Account batches refused outcomes) (batch : List Request)
    (answer : Except Failure Nat) :
    (ofAnswer batch answer :: outcomes).flatMap (·.ids) =
      (batch :: batches).flatten.map (·.id) := by
  rw [List.flatMap_cons, ids_ofAnswer, h.ids, List.flatten_cons, List.map_append]

/-- A batch that is taken. -/
theorem ok (h : Account batches refused outcomes) (batch : List Request) (n : Nat) :
    Account (batch :: batches) refused (ofAnswer batch (.ok n) :: outcomes) where
  ids := h.ids_cons batch (.ok n)
  failed := by rw [List.filter_cons_of_neg (by simp [ofAnswer]), h.failed]
  taken := by rw [← h.taken, List.forall_mem_cons]; simp [ofAnswer]
  named := h.named_cons batch (.ok n)

/-- A batch that is refused. -/
theorem error (h : Account batches refused outcomes) (batch : List Request) (f : Failure) :
    Account (batch :: batches) (batch :: refused) (ofAnswer batch (.error f) :: outcomes) where
  ids := h.ids_cons batch (.error f)
  failed := by
    rw [List.filter_cons_of_pos (by simp [ofAnswer]), List.flatMap_cons, ids_ofAnswer, h.failed,
      List.flatten_cons, List.map_append]
  taken := by simp [ofAnswer]
  named := h.named_cons batch (.error f)

/-- Where no batch is empty every outcome names a document. -/
theorem ids_ne_nil (h : Account batches refused outcomes) (hne : ∀ batch ∈ batches, batch ≠ []) :
    ∀ o ∈ outcomes, o.ids ≠ [] := by
  intro o ho
  obtain ⟨batch, hbatch, hids⟩ := h.named o ho
  rw [hids, ne_eq, List.map_eq_nil_iff]
  exact hne batch hbatch

end Account

end BatchOutcome

/-- **The log holds the batches that were refused**, in the order in which they were submitted, and
    the outcomes account for them. -/
theorem submitAll_refusals {σ : Type} (b : Backend σ) (state : σ)
    (log batches : List (List Request)) :
    ∃ refused, b.refusals.submitAll (state, log) batches =
        ((b.submitAll state batches).1, ((b.submitAll state batches).2, log ++ refused)) ∧
      BatchOutcome.Account batches refused
        (List.zipWith BatchOutcome.ofAnswer batches (b.submitAll state batches).1) := by
  induction batches generalizing state log with
  | nil => exact ⟨[], by simp, .nil⟩
  | cons batch rest ih =>
      rw [submitAll_cons, submitAll_cons]
      cases hsubmit : b.submit state batch with
      | mk answer after =>
          cases answer with
          | ok n =>
              have hstep : b.refusals.submit (state, log) batch = (.ok n, (after, log)) := by
                simp only [Backend.refusals, hsubmit]
              obtain ⟨refused, hrest, haccount⟩ := ih after log
              rw [hstep, hrest]
              exact ⟨refused, rfl, haccount.ok batch n⟩
          | error f =>
              have hstep : b.refusals.submit (state, log) batch =
                  (.error f, (after, log ++ [batch])) := by
                simp only [Backend.refusals, hsubmit]
              obtain ⟨refused, hrest, haccount⟩ := ih after (log ++ [batch])
              rw [hstep, hrest, List.append_assoc]
              exact ⟨batch :: refused, rfl, haccount.error batch f⟩

/-! ## 3. Runs -/

namespace Indexing

/-- **The accounts of a run are exact.** Whatever its source yields and its backend answers, what was
    taken and what was not add up to what was read; the ids that failed are those of the documents
    that the backend refused, in order, as a log of it shows; and the report turns into a failure
    exactly when it is not complete, which it is if the source came to its end without a failure,
    every row was a document, and the backend refused nothing. -/
theorem run_accounts (x : Indexing) (threshold : Nat) {rows : List Json} {failure : Option Failure}
    (h : x.source.execute x.query = .ok ⟨rows, failure⟩) {σ : Type} (b : Backend σ) (state : σ) :
    ∃ (report : Report) (after : σ) (refused : List (List Request)),
      { x with maxCount := atLeastOne threshold }.run b state = (.ok report, after) ∧
      { x with maxCount := atLeastOne threshold }.run b.refusals (state, []) =
        (.ok report, (after, refused)) ∧
      report.committed + report.failedIds.length = report.total ∧
      report.failedIds = refused.flatten.map (·.id) ∧
      (report.failure? = none ↔ report.isComplete = true) ∧
      (report.isComplete = true ↔
        failure = none ∧ (∀ row ∈ rows, ∃ r, x.prepare row = .ok r) ∧ refused = []) := by
  have hs : 0 < atLeastOne threshold := by simp only [atLeastOne]; omega
  let y : Indexing := { x with maxCount := atLeastOne threshold }
  let batches := batchesOf y.maxCount (y.requests rows)
  obtain ⟨refused, hrefused, haccount⟩ := submitAll_refusals b state [] batches
  have hne := haccount.ids_ne_nil fun batch hbatch => (length_of_mem_batchesOf hs hbatch).1
  have hrefusals := run_eq b.refusals y hs (state, []) h
  simp only [batches] at hrefused
  simp only [hrefused] at hrefusals
  refine ⟨_, _, refused, run_eq b y hs state h, hrefusals, ?_, haccount.failed,
    Report.failure?_eq_none_iff_isComplete hne, ?_⟩
  · rw [Report.committed_add_length_failedIds, haccount.ids, flatten_batchesOf, List.length_map]
  · rw [Report.isComplete_iff, haccount.taken, Option.or_eq_none_iff, fault?_eq_none_iff]
    tauto

/-- A backend that refuses its second batch. -/
def refusingSecond : Backend Nat :=
  ⟨fun n batch => (if n = 1 then .error (.bulkSubmit "rejected") else .ok batch.length, n + 1)⟩

theorem interruptedRun_accounts :
    interruptedRun.source.execute interruptedRun.query =
        .ok ⟨interruptedRows, some (.cursor "connection reset")⟩ ∧
      ∃ (report : Report) (after : Nat) (refused : List (List Request)),
        { interruptedRun with maxCount := atLeastOne 2 }.run refusingSecond 0 =
          (.ok report, after) ∧
        { interruptedRun with maxCount := atLeastOne 2 }.run refusingSecond.refusals (0, []) =
          (.ok report, (after, refused)) ∧
        report.committed + report.failedIds.length = report.total ∧
        report.failedIds = refused.flatten.map (·.id) ∧
        (report.failure? = none ↔ report.isComplete = true) ∧
        (report.isComplete = true ↔
          some (Failure.cursor "connection reset") = none ∧
            (∀ row ∈ interruptedRows, ∃ r, interruptedRun.prepare row = .ok r) ∧ refused = []) :=
  ⟨rfl, run_accounts interruptedRun 2 rfl refusingSecond 0⟩

/-- Of three documents one was refused. -/
example :
    (({ interruptedRun with maxCount := 2 }.run refusingSecond 0).1.toOption.map fun report : Report =>
      (report.committed, report.failedIds, report.total, report.isComplete)) =
      some (2, ["p-2"], 3, false) := by decide +kernel

end Indexing

end LabIndex
