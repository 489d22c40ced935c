/-!
# Bounded workers

One walker hands entries to a channel that holds a bounded number of them; several workers take
entries out, process each and pass on the result. The walker ends when it has nothing more to hand
over, which closes the channel; a worker ends when it finds the channel closed and empty. Who moves
next is not fixed: a schedule is any sequence of moves, and a move that is not possible just now is
passed over.

* `Pool.step`: one move;
* `Pool.run`: a schedule;
* `Pool.ended`: the walker and all workers have ended.
-/

namespace LabIndex

/-- What a worker is at. -/
inductive Worker (α : Type) where
  /-- It waits for an entry. -/
  | idle
  /-- It processes an entry. -/
  | busy (a : α)
  /-- It has ended. -/
  | gone
deriving DecidableEq, Repr

namespace Worker

variable {α : Type}

/-- The entry that a worker processes. -/
def item? : Worker α → Option α
  | busy a => some a
  | _ => none

/-- A worker has ended. -/
def isGone : Worker α → Bool
  | gone => true
  | _ => false

end Worker

/-- The state of a walker, its channel and its workers. -/
structure Pool (α β : Type) where
  /-- What the walker has still to hand over. -/
  waiting : List α
  /-- The walker has ended; nothing more comes into the channel. -/
  closed : Bool
  /-- What is in the channel, the oldest first. -/
  channel : List α
  workers : List (Worker α)
  /-- The results, in the order in which they arrived. -/
  results : List β
deriving Repr

/-- A move of the walker or of a worker. -/
inductive Move where
  /-- The walker puts an entry into the channel. -/
  | send
  /-- The walker ends, with nothing left to hand over. -/
  | close
  /-- A worker takes an entry out of the channel. -/
  | receive (worker : Nat)
  /-- A worker passes on the result for its entry. -/
  | finish (worker : Nat)
  /-- A worker ends: the channel is closed and empty. -/
  | leave (worker : Nat)
deriving DecidableEq, Repr

namespace Pool

variable {α β : Type}

/-- A walker with entries to hand over, and idle workers. -/
def start (workers : Nat) (entries : List α) : Pool α β :=
  ⟨entries, false, [], List.replicate workers .idle, []⟩

/-- The channel holds as many entries as there are workers. -/
def capacity (p : Pool α β) : Nat := p.workers.length

/-- One move. -/
def step (process : α → β) (p : Pool α β) : Move → Pool α β
  | .send =>
    match p.waiting with
    | a :: rest =>
      if p.channel.length < p.capacity then
        { p with waiting := rest, channel := p.channel ++ [a] }
      else p
    | [] => p
  | .close => if p.waiting.isEmpty then { p with closed := true } else p
  | .receive w =>
    match p.workers[w]?, p.channel with
    | some .idle, a :: rest =>
      { p with channel := rest, workers := p.workers.set w (.busy a) }
    | _, _ => p
  | .finish w =>
    match p.workers[w]? with
    | some (.busy a) =>
      { p with workers := p.workers.set w .idle, results := p.results ++ [process a] }
    | _ => p
  | .leave w =>
    match p.workers[w]?, p.channel with
    | some .idle, [] => if p.closed then { p with workers := p.workers.set w .gone } else p
    | _, _ => p

/-- Moves one after another. -/
def run (process : α → β) (p : Pool α β) (schedule : List Move) : Pool α β :=
  schedule.foldl (step process) p

/-- The walker and all workers have ended. -/
def ended (p : Pool α β) : Bool := p.closed && p.workers.all (·.isGone)

/-- A schedule that hands over and processes one entry after another, with the workers taking
    turns, and then lets everyone end. -/
def inTurn (workers entries : Nat) : List Move :=
  (List.range entries).flatMap
      (fun i => [.send, .receive (i % workers), .finish (i % workers)]) ++
    .close :: (List.range workers).map .leave

end Pool

end LabIndex
