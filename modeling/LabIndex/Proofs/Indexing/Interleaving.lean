import LabIndex.Proofs.Indexing.Taken
import Mathlib.Logic.Function.Basic

/-!
# Runs side by side

Several runs share an engine and take turns. A turn is short: the query, one row, or the end of the
reading, so that between any two batches of a run there is room for batches of the others. Where the
runs are of different kinds, the turns do not matter: each run reports what it reports when it has
the engine to itself, and the documents are those that the runs leave one after another.

* `Indexing.step`, `Indexing.conclude`: a turn of a run, and what the run has yet to do; a turn takes
  nothing away from it (`Indexing.conclude_step`);
* `Indexing.exists_move`: all that a turn does to a backend is to send at most one batch;
* `Together.follow`: runs that take turns in the order of a schedule. Turns of one run alone are that
  run (`Together.canEnd`), so runs can always be brought to their end (`Together.exists_ended`), and
  runs one after another are runs that take turns (`Together.exists_schedule_inTurn`);
* `filter_uid_eq`, `IndexDirectory.showsAlike_of_takes`: requests in another order of the kinds leave
  the same documents;
* `Together.Between`: the invariant of runs on one engine, with its step `Together.Between.advance`
  and its run `Together.Between.follow`;
* `Together.follow_eq_inTurn`, `Indexers.runKinds_perm`: turns do not matter, nor does the order of
  the kinds;
* `Together.runs_commute`: both.
-/

namespace LabIndex

/-! ## 1. The turns of a run -/

namespace Indexing

variable {σ : Type}

/-- The progress of a run over a backend's state. -/
def Progress.over (p : Progress Unit) (state : σ) : Progress σ :=
  { state, pending := p.pending, total := p.total, batches := p.batches }

/-- The part of the progress that is the run's own. -/
def Progress.own (p : Progress σ) : Progress Unit :=
  { state := (), pending := p.pending, total := p.total, batches := p.batches }

/-- How far a run has come, but for the backend. -/
inductive Stage where
  | waiting
  | reading (rows : List Json) (failure : Option Failure) (p : Progress Unit)
  | ended (answer : Except Failure Report)

namespace Stage

/-- The run has given its answer. -/
def isEnded : Stage → Bool
  | .ended _ => true
  | _ => false

theorem exists_of_isEnded {stage : Stage} (h : stage.isEnded = true) :
    ∃ answer, stage = .ended answer := by
  cases stage with
  | ended answer => exact ⟨answer, rfl⟩
  | waiting => cases h
  | reading => cases h

end Stage

/-- A request is one that a run can make: under its name, and of its kind. -/
def Owns (x : Indexing) (r : Request) : Prop := r.index = x.index ∧ r.kind = x.kind

/-- What waits to be sent is the run's own. -/
def Stage.Owned (x : Indexing) : Stage → Prop
  | .reading _ _ p => ∀ r ∈ p.pending.toList, x.Owns r
  | _ => True

section Turns

variable (x : Indexing) (b : Backend σ)

/-- Stops the reading for a cause, if there is one: what waits goes out. -/
def stop (p : Progress σ) (cause : Option Failure) : Stage × σ :=
  let p := finish b p
  (.ended (.ok ⟨x.kind, p.total, p.batches.toList, cause⟩), p.state)

/-- A turn: the query, one row, or the end of the reading. -/
def step : Stage → σ → Stage × σ
  | .waiting, state =>
    match x.source.execute x.query with
    | .error f => (.ended (.error f), state)
    | .ok cursor => (.reading cursor.rows cursor.failure ⟨(), #[], 0, #[]⟩, state)
  | .reading [] failure p, state => x.stop b (p.over state) failure
  | .reading (row :: rest) failure p, state =>
    match x.prepare row with
    | .ok r =>
      let p := add b x.maxCount (p.over state) r
      (.reading rest failure p.own, p.state)
    | .error f => x.stop b (p.over state) (some f)
  | .ended answer, state => (.ended answer, state)

/-- The rest of a run that has the backend to itself from now on. -/
def conclude : Stage → σ → Except Failure Report × σ
  | .waiting, state => x.run b state
  | .reading rows failure p, state =>
    let (p, bad) := x.readRows b rows (p.over state)
    let p := finish b p
    (.ok ⟨x.kind, p.total, p.batches.toList, bad.or failure⟩, p.state)
  | .ended answer, state => (answer, state)

/-- **What is left to do after a turn is what was left before it**, and so what the run does. -/
theorem conclude_step (stage : Stage) (state : σ) :
    x.conclude b (x.step b stage state).1 (x.step b stage state).2 = x.conclude b stage state := by
  cases stage with
  | ended answer => rfl
  | waiting =>
      simp only [step, conclude, run]
      cases x.source.execute x.query <;> rfl
  | reading rows failure p =>
      cases rows with
      | nil => rfl
      | cons row rest =>
          simp only [step, conclude, readRows]
          cases x.prepare row <;> rfl

end Turns

/-! ## 2. What a turn sends -/

/-- Sends a batch, unless there is nothing to send. -/
def send (b : Backend σ) (state : σ) : List Request → Except Failure Nat × σ
  | [] => (.ok 0, state)
  | r :: rest => b.submit state (r :: rest)

theorem send_of_ne_nil (b : Backend σ) (state : σ) {batch : List Request} (h : batch ≠ []) :
    send b state batch = b.submit state batch := by
  cases batch with
  | nil => exact absurd rfl h
  | cons r rest => rfl

/-- What a run makes of a row is its own. -/
theorem owns_of_prepare {x : Indexing} {row : Json} {r : Request} (h : x.prepare row = .ok r) :
    x.Owns r := by
  rw [prepare] at h
  cases hd : Document.read x.kind row with
  | error m =>
      rw [hd] at h
      cases h
  | ok d =>
      rw [hd] at h
      obtain rfl := Except.ok.inj h
      exact ⟨rfl, rfl⟩

/-- What a turn does, whatever the backend: it sends a batch, and comes as far as the answer says. -/
structure Move where
  batch : List Request
  next : Except Failure Nat → Stage

/-- Makes a move on a backend. -/
def Move.make (m : Move) (b : Backend σ) (state : σ) : Stage × σ :=
  let (answer, state) := send b state m.batch
  (m.next answer, state)

/-- A run sends what is its own, and keeps what is its own. -/
structure Move.Owned (x : Indexing) (m : Move) : Prop where
  batch : ∀ r ∈ m.batch, x.Owns r
  next : ∀ answer, (m.next answer).Owned x

section Moves

variable (x : Indexing)

/-- Stopping sends what waits. -/
theorem exists_move_stop (p : Progress Unit) (cause : Option Failure) :
    ∃ m : Move, ((∀ r ∈ p.pending.toList, x.Owns r) → m.Owned x) ∧
      ∀ {σ : Type} (b : Backend σ) (state : σ), x.stop b (p.over state) cause = m.make b state := by
  let batches (answer : Except Failure Nat) : Array BatchOutcome :=
    if p.pending.isEmpty then p.batches
    else p.batches.push (.ofAnswer p.pending.toList answer)
  refine ⟨⟨p.pending.toList, fun answer =>
    .ended (.ok ⟨x.kind, p.total, (batches answer).toList, cause⟩)⟩, ?_, ?_⟩
  · exact fun hp => ⟨hp, fun _ => trivial⟩
  · intro σ b state
    by_cases he : p.pending = #[]
    · simp [stop, finish, Progress.over, Move.make, batches, he, send]
    · have hne : p.pending.toList ≠ [] := by simpa using he
      simp [stop, finish, Progress.over, Move.make, batches, he, send_of_ne_nil b state hne, flush_eq]

/-- Taking up a request sends all that waits, or nothing. -/
theorem exists_move_add (rest : List Json) (failure : Option Failure) (p : Progress Unit)
    {r : Request} (hr : x.Owns r) :
    ∃ m : Move, ((∀ r ∈ p.pending.toList, x.Owns r) → m.Owned x) ∧
      ∀ {σ : Type} (b : Backend σ) (state : σ),
        (.reading rest failure (add b x.maxCount (p.over state) r).own,
          (add b x.maxCount (p.over state) r).state) = m.make b state := by
  have howned (hp : ∀ s ∈ p.pending.toList, x.Owns s) :
      ∀ s ∈ (p.pending.push r).toList, x.Owns s := by
    rw [Array.toList_push]
    exact List.forall_mem_append.mpr ⟨hp, by simpa using hr⟩
  by_cases hfull : x.maxCount ≤ (p.pending.push r).size
  · refine ⟨⟨(p.pending.push r).toList, fun answer => .reading rest failure
      ⟨(), #[], p.total + 1, p.batches.push (.ofAnswer (p.pending.push r).toList answer)⟩⟩, ?_, ?_⟩
    · exact fun hp => ⟨howned hp, fun _ s hs => absurd hs (by simp)⟩
    · intro σ b state
      have hadd : add b x.maxCount (p.over state) r =
          flush b ⟨state, p.pending.push r, p.total + 1, p.batches⟩ := if_pos hfull
      rw [hadd, flush_eq, Move.make, send_of_ne_nil b state (by simp)]
      rfl
  · refine ⟨⟨[], fun _ => .reading rest failure ⟨(), p.pending.push r, p.total + 1, p.batches⟩⟩,
      ?_, ?_⟩
    · exact fun hp => ⟨by simp, fun _ => howned hp⟩
    · intro σ b state
      have hadd : add b x.maxCount (p.over state) r =
          ⟨state, p.pending.push r, p.total + 1, p.batches⟩ := if_neg hfull
      rw [hadd]
      rfl

/-- **All that a turn does to a backend is to send at most one batch**, of requests of the run's own
    kind; how far the run has come then depends on the answer alone. -/
theorem exists_move (stage : Stage) :
    ∃ m : Move, (stage.Owned x → m.Owned x) ∧
      ∀ {σ : Type} (b : Backend σ) (state : σ), x.step b stage state = m.make b state := by
  -- a stage from which nothing is sent
  have hquiet (next : Stage) (h : next.Owned x) : (⟨[], fun _ => next⟩ : Move).Owned x :=
    ⟨by simp, fun _ => h⟩
  cases stage with
  | ended answer => exact ⟨⟨[], fun _ => .ended answer⟩, hquiet _, fun _ _ => rfl⟩
  | waiting =>
      cases he : x.source.execute x.query with
      | error f =>
          refine ⟨⟨[], fun _ => .ended (.error f)⟩, fun _ => hquiet _ trivial, fun b state => ?_⟩
          simp only [step, he]
          rfl
      | ok cursor =>
          have hempty : (Stage.reading cursor.rows cursor.failure ⟨(), #[], 0, #[]⟩).Owned x := by
            simp [Stage.Owned]
          refine ⟨⟨[], fun _ => .reading cursor.rows cursor.failure ⟨(), #[], 0, #[]⟩⟩,
            fun _ => hquiet _ hempty, fun b state => ?_⟩
          simp only [step, he]
          rfl
  | reading rows failure p =>
      cases rows with
      | nil => exact x.exists_move_stop p failure
      | cons row rest =>
          cases hr : x.prepare row with
          | error f =>
              obtain ⟨m, howned, hstop⟩ := x.exists_move_stop p (some f)
              refine ⟨m, howned, fun b state => ?_⟩
              simp only [step, hr]
              exact hstop b state
          | ok r =>
              obtain ⟨m, howned, hadd⟩ := x.exists_move_add rest failure p (owns_of_prepare hr)
              refine ⟨m, howned, fun b state => ?_⟩
              simp only [step, hr]
              exact hadd b state

end Moves

/-! ## 3. A run by itself -/

/-- A backend that takes everything, and only keeps it. -/
def keeping : Backend (List Request) := ⟨fun kept batch => (.ok batch.length, kept ++ batch)⟩

/-- What a run answers where every batch is taken, and the requests that it makes. -/
def alone (x : Indexing) : Except Failure Report × List Request := x.run keeping []

/-- A move made on it keeps the batch. -/
theorem make_keeping (m : Move) (kept : List Request) :
    m.make keeping kept = (m.next (.ok m.batch.length), kept ++ m.batch) := by
  obtain ⟨batch, next⟩ := m
  cases batch with
  | nil => simp [Move.make, send]
  | cons r rest => rfl

end Indexing

/-! ## 4. Taking turns -/

open Indexing (Stage keeping)

/-- Runs that share a backend: how far the run of each kind has come, and the backend's state. -/
structure Together (σ : Type) where
  stages : Kind → Stage
  state : σ

namespace Together

variable {σ : Type}

/-- No run has begun. -/
def start (state : σ) : Together σ := ⟨fun _ => .waiting, state⟩

/-- A run takes its turn. -/
def advance (b : Backend σ) (t : Together σ) (x : Indexing) : Together σ :=
  let (stage, state) := x.step b (t.stages x.kind) t.state
  ⟨Function.update t.stages x.kind stage, state⟩

/-- Runs take turns in the order of a schedule. -/
def follow (b : Backend σ) (t : Together σ) (schedule : List Indexing) : Together σ :=
  schedule.foldl (advance b) t

/-- All runs have ended. -/
def Ended (t : Together σ) (runs : List Indexing) : Prop :=
  ∀ x ∈ runs, (t.stages x.kind).isEnded = true

instance (t : Together σ) (runs : List Indexing) : Decidable (t.Ended runs) :=
  inferInstanceAs (Decidable (∀ x ∈ runs, _))

section Turns

variable (b : Backend σ) (t : Together σ) (x : Indexing)

@[simp] theorem follow_nil : t.follow b [] = t := rfl

theorem follow_cons (rest : List Indexing) :
    t.follow b (x :: rest) = (t.advance b x).follow b rest := rfl

theorem follow_append (xs ys : List Indexing) :
    t.follow b (xs ++ ys) = (t.follow b xs).follow b ys := List.foldl_append

@[simp] theorem stages_advance_self :
    (t.advance b x).stages x.kind = (x.step b (t.stages x.kind) t.state).1 :=
  Function.update_self ..

/-- A turn leaves the runs of other kinds alone. -/
theorem stages_advance_of_ne {k : Kind} (h : k ≠ x.kind) :
    (t.advance b x).stages k = t.stages k := Function.update_of_ne h ..

@[simp] theorem state_advance :
    (t.advance b x).state = (x.step b (t.stages x.kind) t.state).2 := rfl

/-- So do any turns of runs of other kinds. -/
theorem stages_follow_of_forall_ne {k : Kind} {schedule : List Indexing}
    (h : ∀ x ∈ schedule, k ≠ x.kind) : (t.follow b schedule).stages k = t.stages k := by
  induction schedule generalizing t with
  | nil => rfl
  | cons x rest ih =>
      rw [follow_cons, ih _ fun y hy => h y (List.mem_cons_of_mem _ hy),
        stages_advance_of_ne b t x (h x List.mem_cons_self)]

/-- What a run has yet to do is what it has yet to do after turns of its own. -/
theorem conclude_advance :
    x.conclude b ((t.advance b x).stages x.kind) (t.advance b x).state =
      x.conclude b (t.stages x.kind) t.state := by
  rw [stages_advance_self, state_advance, x.conclude_step]

/-- Turns of a run alone bring it to its end. -/
def CanEnd : Prop :=
  ∃ turns : Nat,
    let after := t.follow b (List.replicate turns x)
    let (answer, state) := x.conclude b (t.stages x.kind) t.state
    after.stages x.kind = .ended answer ∧ after.state = state

end Turns

section Ending

variable {b : Backend σ} {t : Together σ} {x : Indexing}

/-- A run that can end after a turn of its own can end. -/
theorem canEnd_of_advance (h : CanEnd b (t.advance b x) x) : CanEnd b t x := by
  obtain ⟨turns, h⟩ := h
  rw [conclude_advance] at h
  exact ⟨turns + 1, h⟩

theorem canEnd_of_isEnded (h : (t.stages x.kind).isEnded = true) : CanEnd b t x := by
  obtain ⟨answer, he⟩ := Stage.exists_of_isEnded h
  refine ⟨0, ?_⟩
  rw [he]
  exact ⟨he, rfl⟩

theorem canEnd_of_reading {rows : List Json} {failure : Option Failure} {p : Indexing.Progress Unit}
    (h : t.stages x.kind = .reading rows failure p) : CanEnd b t x := by
  induction rows generalizing t p with
  | nil =>
      have hstep := stages_advance_self b t x
      rw [h] at hstep
      exact canEnd_of_advance (canEnd_of_isEnded (by rw [hstep]; rfl))
  | cons row rest ih =>
      have hstep := stages_advance_self b t x
      rw [h] at hstep
      cases hr : x.prepare row with
      | error f =>
          simp only [Indexing.step, hr] at hstep
          exact canEnd_of_advance (canEnd_of_isEnded (by rw [hstep]; rfl))
      | ok r =>
          simp only [Indexing.step, hr] at hstep
          exact canEnd_of_advance (ih hstep)

/-- **A run that is given turns enough ends as it ends by itself.** -/
theorem canEnd (b : Backend σ) (t : Together σ) (x : Indexing) : CanEnd b t x := by
  cases h : t.stages x.kind with
  | ended answer => exact canEnd_of_isEnded (by rw [h]; rfl)
  | reading rows failure p => exact canEnd_of_reading h
  | waiting =>
      have hstep := stages_advance_self b t x
      rw [h] at hstep
      cases he : x.source.execute x.query with
      | error f =>
          simp only [Indexing.step, he] at hstep
          exact canEnd_of_advance (canEnd_of_isEnded (by rw [hstep]; rfl))
      | ok cursor =>
          simp only [Indexing.step, he] at hstep
          exact canEnd_of_advance (canEnd_of_reading hstep)

/-- A run that has ended has no turns left to take. -/
theorem isEnded_advance {k : Kind} (h : (t.stages k).isEnded = true) :
    ((t.advance b x).stages k).isEnded = true := by
  by_cases hk : k = x.kind
  · subst hk
    obtain ⟨answer, he⟩ := Stage.exists_of_isEnded h
    rw [stages_advance_self, he]
    rfl
  · rwa [stages_advance_of_ne b t x hk]

theorem isEnded_follow {k : Kind} {schedule : List Indexing} (h : (t.stages k).isEnded = true) :
    ((t.follow b schedule).stages k).isEnded = true := by
  induction schedule generalizing t with
  | nil => exact h
  | cons x rest ih => exact ih (isEnded_advance h)

/-- Turns of a run, and then turns of others. -/
theorem forall_mem_turns {rest schedule : List Indexing} (turns : Nat)
    (h : ∀ y ∈ schedule, y ∈ rest) : ∀ y ∈ List.replicate turns x ++ schedule, y ∈ x :: rest := by
  intro y hy
  rcases List.mem_append.mp hy with hy | hy
  · rw [List.eq_of_mem_replicate hy]
    exact List.mem_cons_self
  · exact List.mem_cons_of_mem _ (h y hy)

/-- **Whatever turns were taken, the runs can still be brought to their end.** -/
theorem exists_ended (b : Backend σ) (runs : List Indexing) (t : Together σ) :
    ∃ schedule, (∀ x ∈ schedule, x ∈ runs) ∧ (t.follow b schedule).Ended runs := by
  induction runs generalizing t with
  | nil => exact ⟨[], by simp, by simp [Ended]⟩
  | cons x rest ih =>
      obtain ⟨turns, hend, -⟩ := canEnd b t x
      obtain ⟨schedule, hmem, hrest⟩ := ih (t.follow b (List.replicate turns x))
      refine ⟨List.replicate turns x ++ schedule, forall_mem_turns turns hmem, ?_⟩
      rw [follow_append]
      refine List.forall_mem_cons.mpr ⟨isEnded_follow ?_, hrest⟩
      rw [hend]
      rfl

/-- Runs whose stages are answers have ended. -/
theorem ended_of_stages_eq {runs : List Indexing} {answers : List (Except Failure Report)}
    (h : runs.map (fun x => t.stages x.kind) = answers.map .ended) : t.Ended runs := by
  intro x hx
  have hmem : t.stages x.kind ∈ runs.map fun x => t.stages x.kind := List.mem_map_of_mem hx
  rw [h] at hmem
  obtain ⟨answer, -, hanswer⟩ := List.mem_map.mp hmem
  rw [← hanswer]
  rfl

end Ending

/-! ## 5. One after another -/

/-- Runs one after another: their answers, and the backend's state after the last. -/
def inTurn (b : Backend σ) : List Indexing → σ → List (Except Failure Report) × σ
  | [], state => ([], state)
  | x :: rest, state =>
    let (answer, state) := x.run b state
    let (answers, state) := inTurn b rest state
    (answer :: answers, state)

/-- **Runs one after another are runs that take turns**, each until it has ended. -/
theorem exists_schedule_inTurn (b : Backend σ) {order : List Indexing}
    (hkinds : (order.map (·.kind)).Nodup) (t : Together σ)
    (hwait : ∀ x ∈ order, t.stages x.kind = .waiting) :
    ∃ schedule, (∀ x ∈ schedule, x ∈ order) ∧
      order.map (fun x => (t.follow b schedule).stages x.kind) =
        (inTurn b order t.state).1.map .ended ∧
      (t.follow b schedule).state = (inTurn b order t.state).2 := by
  induction order generalizing t with
  | nil => exact ⟨[], by simp, rfl, rfl⟩
  | cons x rest ih =>
      rw [List.map_cons, List.nodup_cons] at hkinds
      have hne : ∀ y ∈ rest, y.kind ≠ x.kind := fun y hy e =>
        hkinds.1 (e ▸ List.mem_map_of_mem hy)
      obtain ⟨turns, hend, hstate⟩ := canEnd b t x
      rw [hwait x List.mem_cons_self] at hend hstate
      -- the runs that come later still wait
      obtain ⟨schedule, hmem, hstages, hafter⟩ :=
        ih hkinds.2 (t.follow b (List.replicate turns x)) fun y hy => by
          rw [stages_follow_of_forall_ne b t fun z hz => List.eq_of_mem_replicate hz ▸ hne y hy]
          exact hwait y (List.mem_cons_of_mem _ hy)
      refine ⟨List.replicate turns x ++ schedule, forall_mem_turns turns hmem, ?_, ?_⟩
      · rw [follow_append, List.map_cons, hstages, hstate,
          stages_follow_of_forall_ne b _ fun y hy => (hne y (hmem y hy)).symm, hend]
        rfl
      · rw [follow_append, hafter, hstate]
        rfl

end Together

/-! ## 6. Requests in another order of the kinds -/

/-- **Within one index, requests that are the same kind by kind are the same key by key.** -/
theorem filter_uid_eq {index : String} {xs ys : List Request} (hx : ∀ r ∈ xs, r.index = index)
    (h : ∀ k, xs.filter (·.kind = k) = ys.filter (·.kind = k)) (uid : String) :
    xs.filter (·.uid = uid) = ys.filter (·.uid = uid) := by
  have hmem : ∀ r, r ∈ xs ↔ r ∈ ys := fun r => by
    have hk := congrArg (r ∈ ·) (h r.kind)
    simpa using hk
  by_cases hasked : ∃ r ∈ xs, r.uid = uid
  · obtain ⟨r, hr, rfl⟩ := hasked
    -- a request with this key is of the same kind
    have hkind : ∀ s ∈ xs, s.uid = r.uid → s.kind = r.kind := fun s hs hu =>
      congrArg DocumentKey.kind
        (DocumentKey.eq_of_uid_eq (k := s.key) (l := r.key) ((hx s hs).trans (hx r hr).symm) hu)
    have hsplit : ∀ zs : List Request, (∀ s ∈ zs, s ∈ xs) →
        zs.filter (·.uid = r.uid) = (zs.filter (·.kind = r.kind)).filter (·.uid = r.uid) := by
      intro zs hzs
      rw [List.filter_filter]
      refine List.filter_congr fun s hs => ?_
      by_cases hu : s.uid = r.uid
      · simp [hu, hkind s (hzs s hs) hu]
      · simp [hu]
    rw [hsplit xs fun _ => id, hsplit ys fun s hs => (hmem s).mpr hs, h]
  · have hnone : ∀ r ∈ xs, ¬ r.uid = uid := fun r hr e => hasked ⟨r, hr, e⟩
    rw [List.filter_eq_nil_iff.mpr (by simpa using hnone),
      List.filter_eq_nil_iff.mpr (by simpa [← hmem] using hnone)]

namespace Search.IndexDirectory

variable {d d₁ d₂ : IndexDirectory} {n : Nat} {xs ys : List Request}

/-- **Two directories show the same documents, each as often**, in the index and to one of their
    engines. -/
structure ShowsAlike (n : Nat) (d₁ d₂ : IndexDirectory) : Prop extends ShowsSame n d₁ d₂ where
  publishedPerm : d₁.published.Perm d₂.published
  viewPerm : (d₁.view n).Perm (d₂.view n)

theorem ShowsAlike.refl (n : Nat) (d : IndexDirectory) : ShowsAlike n d d :=
  ⟨⟨.refl _, .refl _⟩, .refl _, .refl _⟩

theorem Written.showsAlike (hx : Written d n xs d₁) (hy : Written d n ys d₂)
    (h : ∀ uid, xs.filter (·.uid = uid) = ys.filter (·.uid = uid)) : ShowsAlike n d₁ d₂ := by
  have hheld : ∀ uid, d₁.published.held uid = d₂.published.held uid := fun uid => by
    rw [hx.published, hy.published, Index.held_applyAll_congr _ (h uid)]
  have hperm := Index.perm_of_held hheld
  have hsame : d₁.published.SameDocuments d₂.published :=
    ⟨fun uid _ => hheld uid, fun _ => hperm.mem_iff⟩
  refine ⟨⟨hsame, ?_⟩, hperm, ?_⟩
  · rwa [hx.view, hy.view]
  · rwa [hx.view, hy.view]

/-- **Requests that are the same key by key leave the same documents**, however they were cut into
    batches. -/
theorem showsAlike_of_takes (hx : (backend n).Takes d xs d₁) (hy : (backend n).Takes d ys d₂)
    (h : ∀ uid, xs.filter (·.uid = uid) = ys.filter (·.uid = uid)) : ShowsAlike n d₁ d₂ := by
  have hmem : ∀ r, r ∈ xs ↔ r ∈ ys := fun r => by
    have hr := congrArg (r ∈ ·) (h r.uid)
    simpa using hr
  rcases written_of_takes_both hx hy hmem with ⟨-, rfl⟩ | ⟨hwx, hwy⟩
  · exact .refl n d₁
  · exact hwx.showsAlike hwy h

/-- An engine that may write takes what a move sends. -/
theorem make_of_mayWrite (h : d.writeFailure? n = none) (m : Indexing.Move) :
    (m.make (backend n) d).1 = m.next (.ok m.batch.length) ∧
      (m.make (backend n) d).2.writeFailure? n = none ∧
      (backend n).Takes d m.batch (m.make (backend n) d).2 := by
  obtain ⟨batch, next⟩ := m
  cases batch with
  | nil => exact ⟨rfl, h, .nothing d⟩
  | cons r rest =>
      obtain ⟨hok, hmay⟩ := submit_of_mayWrite h (r :: rest)
      have hnext : next ((backend n).submit d (r :: rest)).1 = next (.ok (r :: rest).length) :=
        congrArg next hok
      have htakes := Backend.Takes.batch (b := backend n) (List.cons_ne_nil r rest) hok (.nothing _)
      rw [List.append_nil] at htakes
      exact ⟨hnext, hmay, htakes⟩

end Search.IndexDirectory

/-! ## 7. Runs on one engine -/

namespace Together

open Search (IndexDirectory)

variable {n : Nat} {d : IndexDirectory} {index : String} {runs : List Indexing}
  {kept : List Request} {t : Together IndexDirectory} {x : Indexing}

/-- **Runs of different kinds have taken turns on one engine**, which took some requests so far.
    Those of a run's kind are the run's own: it has yet to do what it would if a backend that only
    keeps requests had kept these. -/
structure Between (n : Nat) (index : String) (runs : List Indexing) (d : IndexDirectory)
    (kept : List Request) (t : Together IndexDirectory) : Prop where
  takes : (IndexDirectory.backend n).Takes d kept t.state
  mayWrite : t.state.writeFailure? n = none
  made : ∀ r ∈ kept, r.index = index ∧ ∃ x ∈ runs, r.kind = x.kind
  owned : ∀ x ∈ runs, (t.stages x.kind).Owned x
  left : ∀ x ∈ runs,
    x.conclude keeping (t.stages x.kind) (kept.filter (·.kind = x.kind)) = x.alone

namespace Between

theorem start (n : Nat) (index : String) (runs : List Indexing) (h : d.writeFailure? n = none) :
    Between n index runs d [] (.start d) where
  takes := .nothing d
  mayWrite := h
  made _ hr := absurd hr List.not_mem_nil
  owned _ _ := trivial
  left _ _ := rfl

/-- A turn of one of the runs sends requests of its own. -/
theorem advance (hindex : ∀ x ∈ runs, x.index = index) (hkinds : (runs.map (·.kind)).Nodup)
    (h : Between n index runs d kept t) (hx : x ∈ runs) :
    ∃ batch, Between n index runs d (kept ++ batch) (t.advance (IndexDirectory.backend n) x) := by
  obtain ⟨m, howned, hstep⟩ := x.exists_move (t.stages x.kind)
  obtain ⟨hbatch, hnext⟩ := howned (h.owned x hx)
  obtain ⟨hanswer, hmay, htakes⟩ := IndexDirectory.make_of_mayWrite h.mayWrite m
  rw [← hstep, ← state_advance] at hmay htakes
  have hstage : (t.advance (IndexDirectory.backend n) x).stages x.kind =
      m.next (.ok m.batch.length) := by
    rw [stages_advance_self, hstep, hanswer]
  -- another run of the same kind there is not
  have hsame : ∀ y ∈ runs, y.kind = x.kind → y = x := fun y hy hk =>
    List.inj_on_of_nodup_map hkinds hy hx hk
  refine ⟨m.batch, h.takes.append htakes, hmay, ?_, ?_, ?_⟩
  · refine List.forall_mem_append.mpr ⟨h.made, fun r hr => ?_⟩
    exact ⟨(hbatch r hr).1.trans (hindex x hx), x, hx, (hbatch r hr).2⟩
  · intro y hy
    by_cases hk : y.kind = x.kind
    · obtain rfl := hsame y hy hk
      rw [hstage]
      exact hnext _
    · rw [stages_advance_of_ne _ t x hk]
      exact h.owned y hy
  · intro y hy
    rw [List.filter_append]
    by_cases hk : y.kind = x.kind
    · obtain rfl := hsame y hy hk
      have hall : m.batch.filter (·.kind = y.kind) = m.batch :=
        List.filter_eq_self.mpr fun r hr => by simpa using (hbatch r hr).2
      have hkeep := y.conclude_step keeping (t.stages y.kind) (kept.filter (·.kind = y.kind))
      rw [hstep, Indexing.make_keeping, h.left y hy] at hkeep
      rw [hstage, hall, hkeep]
    · have hnone : m.batch.filter (·.kind = y.kind) = [] :=
        List.filter_eq_nil_iff.mpr fun r hr => by simpa [(hbatch r hr).2] using Ne.symm hk
      rw [stages_advance_of_ne _ t x hk, hnone, List.append_nil, h.left y hy]

/-- **Whatever turns the runs take, the invariant stays.** -/
theorem follow (hindex : ∀ x ∈ runs, x.index = index) (hkinds : (runs.map (·.kind)).Nodup)
    (h : Between n index runs d kept t) {schedule : List Indexing}
    (hmem : ∀ x ∈ schedule, x ∈ runs) :
    ∃ kept, Between n index runs d kept (t.follow (IndexDirectory.backend n) schedule) := by
  induction schedule generalizing kept t with
  | nil => exact ⟨kept, h⟩
  | cons x rest ih =>
      obtain ⟨batch, hx⟩ := h.advance hindex hkinds (hmem x List.mem_cons_self)
      exact ih hx fun y hy => hmem y (List.mem_cons_of_mem _ hy)

/-- A run that has ended has answered as it does by itself, and the engine took its requests. -/
theorem eq_alone (h : Between n index runs d kept t) (hx : x ∈ runs) (he : t.Ended runs) :
    t.stages x.kind = .ended x.alone.1 ∧ kept.filter (·.kind = x.kind) = x.alone.2 := by
  obtain ⟨answer, hanswer⟩ := Stage.exists_of_isEnded (he x hx)
  have hleft := h.left x hx
  rw [hanswer] at hleft
  rw [hanswer, ← hleft]
  exact ⟨rfl, rfl⟩

/-- **When all runs have ended, the documents do not depend on the turns they took.** -/
theorem showsAlike {kept' : List Request} {t' : Together IndexDirectory}
    (h : Between n index runs d kept t) (he : t.Ended runs)
    (h' : Between n index runs d kept' t') (he' : t'.Ended runs) :
    IndexDirectory.ShowsAlike n t.state t'.state := by
  refine IndexDirectory.showsAlike_of_takes h.takes h'.takes
    (filter_uid_eq (fun r hr => (h.made r hr).1) fun k => ?_)
  by_cases hk : ∃ x ∈ runs, x.kind = k
  · obtain ⟨x, hx, rfl⟩ := hk
    rw [(h.eq_alone hx he).2, (h'.eq_alone hx he').2]
  · -- no run makes requests of this kind
    have hnone : ∀ zs : List Request, (∀ r ∈ zs, r.index = index ∧ ∃ x ∈ runs, r.kind = x.kind) →
        zs.filter (·.kind = k) = [] := by
      intro zs hzs
      refine List.filter_eq_nil_iff.mpr fun r hr hrk => hk ?_
      obtain ⟨-, x, hx, hrx⟩ := hzs r hr
      exact ⟨x, hx, hrx.symm.trans (by simpa using hrk)⟩
    rw [hnone kept h.made, hnone kept' h'.made]

end Between

section Commuting

variable (hd : d.writeFailure? n = none) (hindex : ∀ x ∈ runs, x.index = index)
  (hkinds : (runs.map (·.kind)).Nodup)

include hd hindex hkinds

/-- Turns on an engine that may write. -/
theorem exists_between {schedule : List Indexing} (hmem : ∀ x ∈ schedule, x ∈ runs) :
    ∃ kept, Between n index runs d kept (follow (IndexDirectory.backend n) (.start d) schedule) :=
  (Between.start n index runs hd).follow hindex hkinds hmem

/-- Runs one after another answer as each does by itself, and are runs that took turns. -/
theorem inTurn_eq_alone {order : List Indexing} (horder : order.Perm runs) :
    (inTurn (IndexDirectory.backend n) order d).1 = order.map (·.alone.1) ∧
      ∃ (kept : List Request) (t : Together IndexDirectory), Between n index runs d kept t ∧
        t.Ended runs ∧ t.state = (inTurn (IndexDirectory.backend n) order d).2 := by
  obtain ⟨schedule, hmem, hstages, hstate⟩ :=
    exists_schedule_inTurn (IndexDirectory.backend n) ((horder.map (·.kind)).nodup_iff.mpr hkinds)
      (.start d) fun _ _ => rfl
  obtain ⟨kept, hbetween⟩ := exists_between hd hindex hkinds fun x hx => horder.mem_iff.mp (hmem x hx)
  have hended : (follow (IndexDirectory.backend n) (.start d) schedule).Ended runs := fun x hx =>
    ended_of_stages_eq hstages x (horder.mem_iff.mpr hx)
  refine ⟨?_, kept, _, hbetween, hended, hstate⟩
  have halone := List.map_congr_left (l := order) fun x hx =>
    (hbetween.eq_alone (horder.mem_iff.mp hx) hended).1
  rw [hstages, ← Function.comp_def, ← List.map_map] at halone
  exact List.map_injective_iff.mpr (fun a b h => by injection h) halone

/-- **Turns do not matter**: runs that took turns until all had ended answer as they do one after
    another, and leave the same documents. -/
theorem follow_eq_inTurn {schedule order : List Indexing} (hmem : ∀ x ∈ schedule, x ∈ runs)
    (horder : order.Perm runs)
    (hended : (follow (IndexDirectory.backend n) (.start d) schedule).Ended runs) :
    let together := follow (IndexDirectory.backend n) (.start d) schedule
    let (answers, after) := inTurn (IndexDirectory.backend n) order d
    order.map (fun x => together.stages x.kind) = answers.map .ended ∧
      IndexDirectory.ShowsAlike n together.state after := by
  obtain ⟨kept, hbetween⟩ := exists_between hd hindex hkinds hmem
  obtain ⟨hanswers, kept', t', hbetween', hended', hstate⟩ :=
    inTurn_eq_alone hd hindex hkinds horder
  refine ⟨?_, ?_⟩
  · rw [hanswers, List.map_map]
    exact List.map_congr_left fun x hx => (hbetween.eq_alone (horder.mem_iff.mp hx) hended).1
  · rw [← hstate]
    exact hbetween.showsAlike hended hbetween' hended'

end Commuting

end Together

/-! ## 8. Kinds in any order -/

namespace Indexers

open Together
open Search (IndexDirectory)

variable {σ : Type} {x : Indexers}

/-- Every query of a rebuild can be run. -/
def CanQuery (x : Indexers) : Prop := ∀ k : Kind, (x.source.execute (k.query .all)).isOk = true

/-- A run whose query can be run gives a report. -/
theorem exists_report (hx : x.CanQuery) (b : Backend σ) (k : Kind) (state : σ) :
    ∃ report, (x.run b k .all state).1 = .ok report := by
  have hk := hx k
  cases he : x.source.execute (k.query .all) with
  | error f =>
      rw [he] at hk
      cases hk
  | ok cursor =>
      simp only [run, Indexing.run, indexing, he]
      exact ⟨_, rfl⟩

/-- Running kinds is running them one after another. -/
theorem runKinds_eq_inTurn (hx : x.CanQuery) (b : Backend σ) (kinds : List Kind) (state : σ) :
    ∃ reports, (inTurn b (kinds.map (x.indexing · .all)) state).1 = reports.map .ok ∧
      x.runKinds b kinds state =
        (.ok reports, (inTurn b (kinds.map (x.indexing · .all)) state).2) := by
  induction kinds generalizing state with
  | nil => exact ⟨[], rfl, rfl⟩
  | cons k rest ih =>
      obtain ⟨report, hreport⟩ := exists_report hx b k state
      obtain ⟨reports, hanswers, hrest⟩ := ih (x.run b k .all state).2
      refine ⟨report :: reports, ?_, ?_⟩
      · rw [List.map_cons, inTurn, List.map_cons, ← hreport, ← hanswers]
        rfl
      · have hrun : x.run b k .all state = (.ok report, (x.run b k .all state).2) :=
          Prod.ext hreport rfl
        rw [runKinds, hrun]
        simp only [hrest]
        rfl

/-- **The order of the kinds does not matter**: in each the kinds give the same reports and leave the
    same documents. -/
theorem runKinds_perm (hx : x.CanQuery) {d : IndexDirectory} {n : Nat}
    (hd : d.writeFailure? n = none) :
    ∃ reportOf : Kind → Report, ∀ kinds : List Kind, kinds.Perm Kind.all →
      (x.runKinds (IndexDirectory.backend n) kinds d).1 = .ok (kinds.map reportOf) ∧
        IndexDirectory.ShowsAlike n (x.rebuild (IndexDirectory.backend n) d).2
          (x.runKinds (IndexDirectory.backend n) kinds d).2 := by
  choose reportOf hreportOf using fun k => exists_report hx keeping k []
  let runs := Kind.all.map (x.indexing · .all)
  have hindex : ∀ y ∈ runs, y.index = x.settings.indexName := List.forall_mem_map.mpr fun _ _ => rfl
  have hkinds : (runs.map (·.kind)).Nodup := show Kind.all.Nodup by decide
  refine ⟨reportOf, fun kinds hperm => ?_⟩
  obtain ⟨reports, hanswers, hrun⟩ := runKinds_eq_inTurn hx (IndexDirectory.backend n) kinds d
  obtain ⟨_, -, hall⟩ := runKinds_eq_inTurn hx (IndexDirectory.backend n) Kind.all d
  obtain ⟨halone, _, _, hbetween, hended, hstate⟩ :=
    inTurn_eq_alone hd hindex hkinds (hperm.map (x.indexing · .all))
  obtain ⟨-, _, _, hbetween', hended', hstate'⟩ := inTurn_eq_alone hd hindex hkinds (.refl runs)
  rw [hrun, rebuild, hall]
  refine ⟨?_, ?_⟩
  · rw [hanswers, List.map_map] at halone
    have hreports : reports.map (Except.ok (ε := Failure)) = (kinds.map reportOf).map .ok := by
      rw [halone, List.map_map]
      exact List.map_congr_left fun k _ => hreportOf k
    rw [List.map_injective_iff.mpr (fun a b h => by injection h) hreports]
  · have hsame := hbetween'.showsAlike hended' hbetween hended
    rwa [hstate, hstate'] at hsame

end Indexers

/-! ## 9. Runs commute -/

namespace Together

open Search (IndexDirectory)

/-- **Runs of different kinds commute on an engine that may write.** Whatever turns they take, each
    reports what it reports when they run one after another, in whatever order; and the documents are
    the same. So the kinds of a rebuild can come in any order, where their queries can be run. -/
theorem runs_commute {d : IndexDirectory} {n : Nat} (hd : d.writeFailure? n = none) :
    (∀ {index : String} {runs schedule order : List Indexing},
      (∀ x ∈ runs, x.index = index) → (runs.map (·.kind)).Nodup →
      (∀ x ∈ schedule, x ∈ runs) → order.Perm runs →
      (follow (IndexDirectory.backend n) (.start d) schedule).Ended runs →
      let together := follow (IndexDirectory.backend n) (.start d) schedule
      let (answers, after) := inTurn (IndexDirectory.backend n) order d
      order.map (fun x => together.stages x.kind) = answers.map .ended ∧
        IndexDirectory.ShowsAlike n together.state after) ∧
    ∀ x : Indexers, x.CanQuery →
      ∃ reportOf : Kind → Report, ∀ kinds : List Kind, kinds.Perm Kind.all →
        (x.runKinds (IndexDirectory.backend n) kinds d).1 = .ok (kinds.map reportOf) ∧
          IndexDirectory.ShowsAlike n (x.rebuild (IndexDirectory.backend n) d).2
            (x.runKinds (IndexDirectory.backend n) kinds d).2 :=
  ⟨fun hindex hkinds hmem horder hended =>
      follow_eq_inTurn hd hindex hkinds hmem horder hended,
    fun _ hx => Indexers.runKinds_perm hx hd⟩

/-- A run over rows with two ids, which sends each request by itself. -/
def pairRun (kind : Kind) : Indexing where
  index := "mc"
  kind := kind
  query := .table "rows"
  source := ⟨fun _ => .ok ⟨[.obj [("id", .str "a")], .obj [("id", .str "b")]], none⟩⟩
  maxCount := 1

/-- Projects and users with the same ids, turn about, with a user's batch before each project's. -/
def pairSchedule : List Indexing :=
  let (p, u) := (pairRun .project, pairRun .user)
  [p, u, u, p, u, p, u, p]

/-- The two, in the other order. -/
def pairOrder : List Indexing := [pairRun .user, pairRun .project]

theorem runs_commute_pair :
    IndexDirectory.single.writeFailure? 0 = none ∧
      (∀ x ∈ pairOrder, x.index = "mc") ∧ (pairOrder.map (·.kind)).Nodup ∧
      (∀ x ∈ pairSchedule, x ∈ pairOrder) ∧ pairOrder.reverse.Perm pairOrder ∧
      (follow (IndexDirectory.backend 0) (.start .single) pairSchedule).Ended pairOrder ∧
      (let together := follow (IndexDirectory.backend 0) (.start .single) pairSchedule
        let (answers, after) := inTurn (IndexDirectory.backend 0) pairOrder.reverse .single
        pairOrder.reverse.map (fun x => together.stages x.kind) = answers.map .ended ∧
          IndexDirectory.ShowsAlike 0 together.state after) ∧
      (Indexers.onStore .twiceLinked).CanQuery ∧
      ∃ reportOf : Kind → Report, ∀ kinds : List Kind, kinds.Perm Kind.all →
        ((Indexers.onStore .twiceLinked).runKinds (IndexDirectory.backend 0) kinds .single).1 =
            .ok (kinds.map reportOf) ∧
          IndexDirectory.ShowsAlike 0
            ((Indexers.onStore .twiceLinked).rebuild (IndexDirectory.backend 0) .single).2
            ((Indexers.onStore .twiceLinked).runKinds (IndexDirectory.backend 0) kinds .single).2 := by
  have hindex : ∀ x ∈ pairOrder, x.index = "mc" := by simp [pairOrder, pairRun]
  have hkinds : (pairOrder.map (·.kind)).Nodup := by decide
  have hmem : ∀ x ∈ pairSchedule, x ∈ pairOrder := by simp [pairSchedule, pairOrder]
  have hended : (follow (IndexDirectory.backend 0) (.start .single) pairSchedule).Ended pairOrder := by
    decide +kernel
  have hquery : (Indexers.onStore .twiceLinked).CanQuery := by
    intro k
    cases k <;> decide +kernel
  obtain ⟨hturns, horders⟩ := runs_commute IndexDirectory.mayWrite_single
  exact ⟨IndexDirectory.mayWrite_single, hindex, hkinds, hmem, pairOrder.reverse_perm, hended,
    hturns hindex hkinds hmem pairOrder.reverse_perm hended, hquery, horders _ hquery⟩

/-- The documents do not lie in the order in which they lie one run after another. -/
example :
    (follow (IndexDirectory.backend 0) (.start .single) pairSchedule).state.published.map (·.uid) =
        ["mc/user/a", "mc/project/a", "mc/user/b", "mc/project/b"] ∧
      (inTurn (IndexDirectory.backend 0) pairOrder .single).2.published.map (·.uid) =
        ["mc/user/a", "mc/user/b", "mc/project/a", "mc/project/b"] := by decide +kernel

end Together

end LabIndex
