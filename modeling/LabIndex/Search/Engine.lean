import LabIndex.Search.Language
import LabIndex.Search.Ranking

/-!
# Engines on an index

An index lies in a directory on which any number of engines may be open. Each engine sees the
index as it was when it last looked: when it was opened, after a batch of its own was taken, when
it was told to look again, or at its last search that ran. One engine at a time may write: the first
to submit a batch, until it is closed.

* `IndexDirectory.submit`, `IndexDirectory.search`, `IndexDirectory.refresh`,
  `IndexDirectory.close`: what an engine can be asked to do.
-/

namespace LabIndex.Search

/-! ## 1. Writing memory -/

/-- The least memory that one writing thread works with, in bytes. -/
def leastThreadMemory : Nat := 15000000

/-- The memory from which on a writing thread has too much, in bytes. -/
def mostThreadMemory : Nat := 4293967295

/-- The most writing threads. -/
def mostThreads : Nat := 8

/-- The number of writing threads that share some memory on a machine with some processors: one for
    each processor, as far as there is memory enough for each thread, and one at least. -/
def threads (processors memory : Nat) : Nat :=
  max 1 (min (min processors mostThreads) (memory / leastThreadMemory))

/-- Why an engine cannot write with some memory, if it cannot. -/
def memoryFault? (processors memory : Nat) : Option String :=
  let each := memory / threads processors memory
  let refused (reason : String) :=
    some ("An invalid argument was passed: 'The memory arena in bytes per thread " ++ reason ++ "'")
  if each < leastThreadMemory then
    refused ("needs to be at least " ++ toString leastThreadMemory ++ ".")
  else if mostThreadMemory ≤ each then
    refused ("cannot exceed " ++ toString mostThreadMemory)
  else none

/-- The message for an index that another engine writes. -/
def lockMessage : String :=
  "Failed to acquire Lockfile: LockBusy. Some(\"Failed to acquire index lock. If you are using " ++
  "a regular directory, this means there is already an `IndexWriter` working on this " ++
  "`Directory`, in this process or in a different process.\")"

/-- The failure of an engine that cannot write. -/
def writerFailure (reason : String) : Failure := .bulkSubmit ("Failed to create writer: " ++ reason)

/-! ## 2. Engines -/

/-- An open engine. -/
structure Engine where
  /-- The processors of the machine that it runs on. -/
  processors : Nat
  /-- The memory that it writes with. -/
  memory : Nat
  /-- The index as it last saw it. -/
  view : Index
deriving Repr

/-- Why an engine cannot write, if its memory keeps it from it. -/
def Engine.fault? (e : Engine) : Option String := memoryFault? e.processors e.memory

/-- An index and the engines on it. -/
structure IndexDirectory where
  published : Index
  /-- What the engine that may write has queued and not published. -/
  queued : List WriteOp
  /-- The engines by their numbers; none where one was closed. -/
  engines : List (Option Engine)
  /-- The engine that may write. -/
  holder : Option Nat
deriving Repr

/-- Why a search gives no hits. -/
inductive SearchFault where
  | failure (f : Failure)
  /-- A search needs room for one hit at least. -/
  | noRoom
deriving DecidableEq, Repr

namespace IndexDirectory

/-- A directory with an index, and no engine open. -/
def ofIndex (x : Index) : IndexDirectory := ⟨x, [], [], none⟩

/-- Opens an engine; the answer is its number. Where nothing is said of the machine it has as many
    processors as can be used. -/
def openEngine (d : IndexDirectory) (memory : Nat) (processors : Nat := mostThreads) :
    Nat × IndexDirectory :=
  (d.engines.length, { d with engines := d.engines ++ [some ⟨processors, memory, d.published⟩] })

/-- The engine with a number, if it is open. -/
def engine? (d : IndexDirectory) (n : Nat) : Option Engine := (d.engines[n]?).join

/-- The index as an engine sees it. -/
def view (d : IndexDirectory) (n : Nat) : Index := ((d.engine? n).map (·.view)).getD []

/-- Lets an engine see the index as it is now. -/
def refresh (d : IndexDirectory) (n : Nat) : IndexDirectory :=
  match d.engine? n with
  | some e => { d with engines := d.engines.set n (some { e with view := d.published }) }
  | none => d

/-- Closes an engine, which then no longer writes; what it had queued is lost. -/
def close (d : IndexDirectory) (n : Nat) : IndexDirectory :=
  { d with
    engines := d.engines.set n none
    queued := if d.holder = some n then [] else d.queued
    holder := if d.holder = some n then none else d.holder }

/-- The failure that keeps an engine from writing, if there is one. -/
def writeFailure? (d : IndexDirectory) (n : Nat) : Option Failure :=
  match d.engine? n with
  | none => some (writerFailure "closed")
  | some e =>
    match d.holder with
    | some m => if m = n then none else some (writerFailure lockMessage)
    | none => e.fault?.map writerFailure

/-- Submits a batch by an engine, where writing ends in a given way; the answer is the number of
    documents taken. -/
def submitWith (d : IndexDirectory) (n : Nat) (batch : List Request) (fate : Fate) :
    Except Failure Nat × IndexDirectory :=
  match d.writeFailure? n with
  | some f => (.error f, d)
  | none =>
    let w := (Writer.mk d.published d.queued).submit batch fate
    let written := { d with published := w.published, queued := w.queued, holder := some n }
    match fate with
    | .taken => (.ok batch.length, written.refresh n)
    | .refused _ reason => (.error reason, written)

/-- Submits a batch by an engine, where writing succeeds. -/
def submit (d : IndexDirectory) (n : Nat) (batch : List Request) :
    Except Failure Nat × IndexDirectory := d.submitWith n batch .taken

/-- Searches by an engine. Where no language is named the text is an expression. -/
def search (d : IndexDirectory) (n : Nat) (text : String) (kind : Option Kind) (limit : Nat)
    (language : Language := .standard) : Except SearchFault (List Hit) × IndexDirectory :=
  match language.read text with
  | .error f => (.error (.failure (.query f.message)), d)
  | .ok c =>
    let d := d.refresh n
    if limit = 0 then (.error .noRoom, d)
    else
      match (d.view n).search (c.narrow kind) limit with
      | .ok hits => (.ok hits, d)
      | .error f => (.error (.failure f), d)

/-- An engine as a taker of batches. -/
def backend (n : Nat) : Backend IndexDirectory := ⟨fun d batch => d.submit n batch⟩

end IndexDirectory

end LabIndex.Search
