import LabIndex.Json.Reader
import LabIndex.Search.Profile

/-!
# The index

The live documents of an index, in the order in which they came in. Documents are written in
batches: what a batch does is queued first and then published all at once, or forgotten. A document
is kept under the written form of its key, and one that comes in replaces the one that was there.

A key too long to be held as a term is no key: its document is never replaced and never found by it.

* `Index.apply`: one operation;
* `Writer.submit`: a whole batch, taken or not.
-/

namespace LabIndex.Search

/-! ## 1. Documents -/

/-- The live documents, the oldest first. -/
abbrev Index := List Request

namespace Index

/-- A document is kept under this key. -/
def isUnder (uid : String) (r : Request) : Bool := asTerm r.uid == some uid

/-- The number of documents under a key. -/
def count (x : Index) (key : DocumentKey) : Nat := x.countP (isUnder key.uid)

/-- The document as it was stored, as a text, and read again. -/
def stored (r : Request) : Except Failure Json :=
  match Json.parse? r.document.text with
  | some v => .ok v
  | none => .error .malformedJson

/-- The document under a key, if there is one. -/
def get (x : Index) (key : DocumentKey) : Except Failure (Option Json) :=
  match x.find? (isUnder key.uid) with
  | none => .ok none
  | some r => (stored r).map some

end Index

/-! ## 2. Operations -/

/-- A queued operation. -/
inductive WriteOp where
  /-- Removes what is under a key. -/
  | delete (uid : String)
  | add (r : Request)
deriving Repr

namespace Index

/-- Carries out an operation. -/
def apply (x : Index) : WriteOp → Index
  | .delete uid => x.filter fun r => !isUnder uid r
  | .add r => x ++ [r]

/-- Carries out operations in order. -/
def applyAll (x : Index) (ops : List WriteOp) : Index := ops.foldl apply x

end Index

/-- The operations of a batch: each document replaces what was under its key. -/
def operations (batch : List Request) : List WriteOp :=
  batch.flatMap fun r => [.delete r.uid, .add r]

/-! ## 3. Writers -/

/-- How writing a batch ends. -/
inductive Fate where
  | taken
  /-- It fails for a reason, after this many operations were queued. -/
  | refused (queued : Nat) (reason : Failure)
deriving DecidableEq, Repr

/-- What was published, and what is queued. -/
structure Writer where
  published : Index
  queued : List WriteOp
deriving Repr

namespace Writer

/-- Queues operations. -/
def stage (w : Writer) (ops : List WriteOp) : Writer := { w with queued := w.queued ++ ops }

/-- Publishes what is queued. -/
def commit (w : Writer) : Writer := ⟨w.published.applyAll w.queued, []⟩

/-- Forgets what is queued. -/
def rollback (w : Writer) : Writer := { w with queued := [] }

/-- Writes a batch. -/
def submit (w : Writer) (batch : List Request) : Fate → Writer
  | .taken => (w.stage (operations batch)).commit
  | .refused queued _ => (w.stage ((operations batch).take queued)).rollback

end Writer

end LabIndex.Search
