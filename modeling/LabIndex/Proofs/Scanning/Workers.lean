import LabIndex.FileTree.Workers
import Mathlib.Algebra.GroupWithZero.Nat

/-!
# What bounded workers deliver

Whatever the order in which the walker and the workers move, no entry is lost and none is processed
twice: each is still to be handed over, in the channel, in the hands of one worker, or among the
results. A worker ends only when nothing can come any more, so that nothing is left behind when all
have ended; and as long as not all have, somebody can move.

* `Pool.Effect`: what a move can do, `Pool.step_eq_or_effect` and `Pool.exists_step_of_effect`: a
  move does one of these things or nothing;
* `Pool.Accounts`: the invariant of every interleaving, with its step `Pool.Accounts.effect` and its
  run `Pool.Accounts.run`;
* `Pool.Accounts.perm_of_ended`: **when all have ended each entry was processed once**;
* `Pool.Effect.remaining`, `Pool.Accounts.exists_effect`: every move that does something brings the
  end nearer by one, and there is one until the end;
* `Pool.Accounts.exists_ended`: so every schedule can be continued to the end;
* `Pool.run_inTurn`: the schedule in which the workers take turns comes to the end, with the results in
  the order of the entries.
-/

namespace LabIndex

variable {α β : Type}

/-- The moves that a worker still makes, if it takes out nothing more. -/
def Worker.left : Worker α → Nat
  | .idle => 1
  | .busy _ => 2
  | .gone => 0

namespace Pool

/-! ## 1. Moves -/

section Effects

variable (process : α → β)

/-- **What a move can do.** -/
inductive Effect : Pool α β → Pool α β → Prop where
  | send {a : α} {waiting channel : List α} {closed : Bool} {workers : List (Worker α)}
      {results : List β} (room : channel.length < workers.length) :
      Effect ⟨a :: waiting, closed, channel, workers, results⟩
        ⟨waiting, closed, channel ++ [a], workers, results⟩
  | close {channel : List α} {workers : List (Worker α)} {results : List β} :
      Effect ⟨[], false, channel, workers, results⟩ ⟨[], true, channel, workers, results⟩
  | receive {a : α} {waiting channel : List α} {closed : Bool} {before after : List (Worker α)}
      {results : List β} :
      Effect ⟨waiting, closed, a :: channel, before ++ .idle :: after, results⟩
        ⟨waiting, closed, channel, before ++ .busy a :: after, results⟩
  | finish {a : α} {waiting channel : List α} {closed : Bool} {before after : List (Worker α)}
      {results : List β} :
      Effect ⟨waiting, closed, channel, before ++ .busy a :: after, results⟩
        ⟨waiting, closed, channel, before ++ .idle :: after, results ++ [process a]⟩
  | leave {waiting : List α} {before after : List (Worker α)} {results : List β} :
      Effect ⟨waiting, true, [], before ++ .idle :: after, results⟩
        ⟨waiting, true, [], before ++ .gone :: after, results⟩

/-- A worker that is there stands between others, and so does what it becomes. -/
theorem exists_split {workers : List (Worker α)} {w : Nat} {old : Worker α}
    (h : workers[w]? = some old) (new : Worker α) :
    ∃ before after, workers = before ++ old :: after ∧
      workers.set w new = before ++ new :: after := by
  obtain ⟨hlt, hold⟩ := List.getElem?_eq_some_iff.mp h
  refine ⟨workers.take w, workers.drop (w + 1), ?_, ?_⟩
  · rw [← hold, ← List.drop_eq_getElem_cons hlt, List.take_append_drop]
  · exact List.set_eq_take_append_cons_drop.trans (if_pos hlt)

/-- A move does one of these things or nothing. -/
theorem step_eq_or_effect (p : Pool α β) (m : Move) :
    p.step process m = p ∨ Effect process p (p.step process m) := by
  obtain ⟨waiting, closed, channel, workers, results⟩ := p
  cases m with
  | send =>
      cases waiting with
      | nil => exact .inl rfl
      | cons a rest =>
          by_cases room : channel.length < workers.length
          · have hstep : step process ⟨a :: rest, closed, channel, workers, results⟩ .send =
                ⟨rest, closed, channel ++ [a], workers, results⟩ := if_pos room
            rw [hstep]
            exact .inr (.send room)
          · exact .inl (if_neg room)
  | close =>
      cases waiting with
      | cons a rest => exact .inl rfl
      | nil =>
          cases closed with
          | true => exact .inl rfl
          | false => exact .inr .close
  | receive w =>
      rw [step]
      split
      · rename_i a rest hw hchannel
        obtain ⟨before, after, rfl, hset⟩ := exists_split hw (.busy a)
        obtain rfl : channel = a :: rest := hchannel
        simp only [hset]
        exact .inr .receive
      · exact .inl rfl
  | finish w =>
      rw [step]
      split
      · rename_i a hw
        obtain ⟨before, after, rfl, hset⟩ := exists_split hw .idle
        simp only [hset]
        exact .inr .finish
      · exact .inl rfl
  | leave w =>
      rw [step]
      split
      · rename_i hw hchannel
        obtain ⟨before, after, rfl, hset⟩ := exists_split hw .gone
        obtain rfl : channel = [] := hchannel
        cases closed with
        | false => exact .inl rfl
        | true =>
            simp only [hset]
            exact .inr .leave
      · exact .inl rfl

/-- Each of these things is done by some move. -/
theorem exists_step_of_effect {process : α → β} {p q : Pool α β} (h : Effect process p q) :
    ∃ m, p.step process m = q := by
  cases h with
  | send room => exact ⟨.send, by simp [step, capacity, room]⟩
  | close => exact ⟨.close, rfl⟩
  | @receive _ _ _ _ before => exact ⟨.receive before.length, by simp [step]⟩
  | @finish _ _ _ _ before => exact ⟨.finish before.length, by simp [step]⟩
  | @leave _ before => exact ⟨.leave before.length, by simp [step]⟩

theorem run_cons (p : Pool α β) (m : Move) (rest : List Move) :
    p.run process (m :: rest) = (p.step process m).run process rest := rfl

theorem run_append (p : Pool α β) (first second : List Move) :
    p.run process (first ++ second) = (p.run process first).run process second := by
  rw [run, run, run, List.foldl_append]

end Effects

/-! ## 2. Nothing is lost and nothing is taken twice -/

/-- The entries that the workers process. -/
def inHand (p : Pool α β) : List α := p.workers.filterMap (·.item?)

/-- **The books of a pool**: each entry is among the results, or with a worker, in the channel or
    still with the walker; a channel is closed when everything went in, and left by a worker when
    everything came out. -/
structure Accounts (process : α → β) (entries : List α) (crew : Nat) (p : Pool α β) : Prop where
  kept : (p.results ++ (p.inHand ++ (p.channel ++ p.waiting)).map process).Perm
    (entries.map process)
  handed : p.closed = true → p.waiting = []
  taken : .gone ∈ p.workers → p.closed = true ∧ p.channel = []
  manned : p.workers.length = crew

section Books

variable {process : α → β} {entries : List α} {crew : Nat} {p q : Pool α β}

theorem accounts_start (process : α → β) (entries : List α) (crew : Nat) :
    Accounts process entries crew (start crew entries : Pool α β) where
  kept := by simp [start, inHand, Worker.item?]
  handed := fun h => by cases h
  taken := fun h => by simp [start] at h
  manned := List.length_replicate

/-- **Whatever a move does, the books stay right.** -/
theorem Accounts.effect (h : Accounts process entries crew p) (he : Effect process p q) :
    Accounts process entries crew q := by
  obtain ⟨kept, handed, taken, manned⟩ := h
  cases he with
  | send =>
      refine ⟨?_, fun hclosed => ?_, fun hgone => ?_, manned⟩
      · simpa [inHand] using kept
      · exact absurd (handed hclosed) (List.cons_ne_nil _ _)
      · exact absurd (handed (taken hgone).1) (List.cons_ne_nil _ _)
  | close => exact ⟨kept, fun _ => rfl, fun hgone => absurd (taken hgone).1 Bool.false_ne_true, manned⟩
  | @receive a waiting channel closed before after results =>
      refine ⟨?_, handed, fun hgone => ?_, by simpa using manned⟩
      · refine List.Perm.trans ?_ kept
        refine List.Perm.append_left _ (List.Perm.map _ ?_)
        -- the entry moves from the front of the channel to its worker
        simp only [inHand, List.filterMap_append, List.filterMap_cons, Worker.item?,
          List.append_assoc, List.cons_append]
        refine List.Perm.append_left _ ?_
        exact List.perm_middle.symm
      · have hold : Worker.gone ∈ before ++ .idle :: after := by simpa using hgone
        exact absurd (taken hold).2 (List.cons_ne_nil _ _)
  | @finish a waiting channel closed before after results =>
      refine ⟨?_, handed, fun hgone => taken (by simpa using hgone), by simpa using manned⟩
      refine List.Perm.trans ?_ kept
      -- the result stands where its entry stood
      simp only [inHand, List.filterMap_append, List.filterMap_cons, Worker.item?,
        List.append_assoc, List.cons_append, List.map_append, List.map_cons, List.nil_append]
      exact List.Perm.append_left _ List.perm_middle.symm
  | leave =>
      exact ⟨by simpa [inHand, Worker.item?] using kept, handed, fun _ => ⟨rfl, rfl⟩,
        by simpa using manned⟩

theorem Accounts.step (h : Accounts process entries crew p) (m : Move) :
    Accounts process entries crew (p.step process m) := by
  rcases step_eq_or_effect process p m with hsame | heffect
  · rw [hsame]
    exact h
  · exact h.effect heffect

/-- **The books stay right under every schedule.** -/
theorem Accounts.run (h : Accounts process entries crew p) (schedule : List Move) :
    Accounts process entries crew (p.run process schedule) := by
  induction schedule generalizing p with
  | nil => exact h
  | cons m rest ih => exact ih (h.step m)

theorem forall_gone_of_ended (h : p.ended = true) : ∀ w ∈ p.workers, w = .gone := by
  intro w hw
  have hgone := List.all_eq_true.mp (Bool.and_eq_true_iff.mp h).2 w hw
  cases w with
  | gone => rfl
  | idle | busy => cases hgone

/-- **When all have ended each entry was processed once**, and nothing else was. -/
theorem Accounts.perm_of_ended (h : Accounts process entries crew p) (hcrew : 0 < crew)
    (hended : p.ended = true) : p.results.Perm (entries.map process) := by
  have hall := forall_gone_of_ended hended
  obtain ⟨w, hw⟩ := List.exists_mem_of_length_pos (h.manned ▸ hcrew)
  have hchannel := (h.taken (hall w hw ▸ hw)).2
  have hwaiting := h.handed (Bool.and_eq_true_iff.mp hended).1
  have hhand : p.inHand = [] := by
    rw [inHand, List.filterMap_eq_nil_iff]
    intro w hw
    rw [hall w hw]
    rfl
  simpa [hhand, hchannel, hwaiting] using h.kept

/-! ## 3. There is always a way to the end -/

/-- The moves that are left until all have ended: three for an entry that is still to be handed
    over, two for one in the channel, and what the walker and the workers need to end. -/
def remaining (p : Pool α β) : Nat :=
  3 * p.waiting.length + 2 * p.channel.length + (p.workers.map (·.left)).sum +
    (if p.closed then 0 else 1)

/-- **A move that does something brings the end nearer by one.** -/
theorem Effect.remaining (h : Effect process p q) : q.remaining + 1 = p.remaining := by
  cases h <;> simp [Pool.remaining, Worker.left] <;> omega

/-- **Until all have ended somebody can move.** -/
theorem Accounts.exists_effect (h : Accounts process entries crew p) (hcrew : 0 < crew)
    (hended : p.ended = false) : ∃ q, Effect process p q := by
  obtain ⟨waiting, closed, channel, workers, results⟩ := p
  obtain ⟨-, handed, taken, rfl⟩ := h
  by_cases hbusy : ∃ a, .busy a ∈ workers
  case pos =>
    obtain ⟨a, ha⟩ := hbusy
    obtain ⟨before, after, rfl⟩ := List.append_of_mem ha
    exact ⟨_, .finish⟩
  have hrest : ∀ w ∈ workers, w = .idle ∨ w = .gone := by
    intro w hw
    cases w with
    | idle => exact .inl rfl
    | gone => exact .inr rfl
    | busy a => exact absurd ⟨a, hw⟩ hbusy
  cases channel with
  | cons a rest =>
      -- nobody has left a channel with something in it
      obtain ⟨w, hw⟩ := List.exists_mem_of_length_pos hcrew
      rcases hrest w hw with rfl | rfl
      · obtain ⟨before, after, rfl⟩ := List.append_of_mem hw
        exact ⟨_, .receive⟩
      · exact absurd (taken hw).2 (List.cons_ne_nil _ _)
  | nil =>
      cases waiting with
      | cons a rest => exact ⟨_, .send hcrew⟩
      | nil =>
          cases closed with
          | false => exact ⟨_, .close⟩
          | true =>
              obtain ⟨w, hw, hgone⟩ : ∃ w ∈ workers, w.isGone = false := by
                simpa [ended] using hended
              rcases hrest w hw with rfl | rfl
              · obtain ⟨before, after, rfl⟩ := List.append_of_mem hw
                exact ⟨_, .leave⟩
              · cases hgone

/-- **Every schedule can be continued to the end.** -/
theorem Accounts.exists_ended (h : Accounts process entries crew p) (hcrew : 0 < crew) :
    ∃ more, (p.run process more).ended = true := by
  -- by the number of moves that are left
  induction hn : p.remaining using Nat.strongRecOn generalizing p with
  | _ n ih =>
      cases hended : p.ended with
      | true => exact ⟨[], hended⟩
      | false =>
          obtain ⟨q, hq⟩ := h.exists_effect hcrew hended
          obtain ⟨m, hm⟩ := exists_step_of_effect hq
          have hless : q.remaining < n := by
            have := hq.remaining
            omega
          obtain ⟨more, hmore⟩ := ih _ hless (h.effect hq) rfl
          exact ⟨m :: more, by rw [run_cons, hm]; exact hmore⟩

end Books

/-! ## 4. The workers in turn -/

section Turns

variable {process : α → β} {crew : Nat}

/-- A worker of an idle crew that does its part for one entry is idle again. -/
theorem run_turn (hcrew : 0 < crew) (a : α) (rest : List α) (results : List β) (i : Nat) :
    (⟨a :: rest, false, [], List.replicate crew .idle, results⟩ : Pool α β).run process
        [.send, .receive (i % crew), .finish (i % crew)] =
      ⟨rest, false, [], List.replicate crew .idle, results ++ [process a]⟩ := by
  have hi : i % crew < crew := Nat.mod_lt i hcrew
  simp [run, step, capacity, hcrew, hi]

theorem run_turns (hcrew : 0 < crew) (entries : List α) (turns : List Nat)
    (h : turns.length = entries.length) (results : List β) :
    (⟨entries, false, [], List.replicate crew .idle, results⟩ : Pool α β).run process
        (turns.flatMap fun i => [.send, .receive (i % crew), .finish (i % crew)]) =
      ⟨[], false, [], List.replicate crew .idle, results ++ entries.map process⟩ := by
  induction entries generalizing turns results with
  | nil =>
      obtain rfl := List.eq_nil_of_length_eq_zero h
      simp [run]
  | cons a rest ih =>
      obtain ⟨i, turns, rfl⟩ := List.exists_cons_of_length_eq_add_one h
      rw [List.flatMap_cons, run_append, run_turn hcrew, ih turns (Nat.succ.inj h)]
      simp

/-- Idle workers end one after another once the channel is closed. -/
theorem run_leave (results : List β) {k : Nat} (h : k ≤ crew) :
    (⟨[], true, [], List.replicate crew .idle, results⟩ : Pool α β).run process
        ((List.range k).map .leave) =
      ⟨[], true, [], List.replicate k .gone ++ List.replicate (crew - k) .idle, results⟩ := by
  induction k with
  | zero => simp [run]
  | succ k ih =>
      have hsplit : List.replicate (crew - k) (.idle : Worker α) =
          .idle :: List.replicate (crew - (k + 1)) .idle := by
        rw [← List.replicate_succ]
        congr 1
        omega
      rw [List.range_succ, List.map_append, run_append, ih (by omega), hsplit]
      simp [run, step, List.replicate_succ']

/-- **In turn the workers come to the end**, with the results in the order of the entries. -/
theorem run_inTurn (hcrew : 0 < crew) (entries : List α) :
    (start crew entries : Pool α β).run process (inTurn crew entries.length) =
      ⟨[], true, [], List.replicate crew .gone, entries.map process⟩ := by
  rw [inTurn, run_append, start, run_turns hcrew entries _ List.length_range, run_cons]
  show (⟨[], true, [], List.replicate crew .idle, entries.map process⟩ : Pool α β).run process
      ((List.range crew).map .leave) = _
  rw [run_leave _ (Nat.le_refl crew), Nat.sub_self, List.replicate_zero, List.append_nil]

end Turns

end Pool

end LabIndex
