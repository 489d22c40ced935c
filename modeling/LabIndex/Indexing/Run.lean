import LabIndex.Document.Basic
import LabIndex.Indexing.Report
import LabIndex.Indexing.Request
import LabIndex.Store.Source

/-!
# Indexing runs

A run reads the rows of a query one by one, makes a request of each and hands the requests to a
backend in batches. A batch goes out as soon as it holds as many requests as the threshold says;
what is left at the end goes out last.

* A query that cannot be run is the only failure of a run.
* A row that is no document stops the reading; so does the source. Requests collected before that
  still go out, and the report names the cause.
* A batch that is not taken does not stop the run.
-/

namespace LabIndex

/-- What a run does, but for the backend. -/
structure Indexing where
  /-- The name under which documents are keyed. -/
  index : String
  kind : Kind
  query : Query
  source : Source
  /-- The batch threshold, at least one. -/
  maxCount : Nat := 1000
  /-- What is done to each document before it goes out. -/
  enrich : Document → Document := id

/-- A threshold of at least one. -/
def atLeastOne (n : Nat) : Nat := max n 1

namespace Indexing

/-- The request for a row. -/
def prepare (x : Indexing) (row : Json) : Except Failure Request :=
  match Document.read x.kind row with
  | .ok d =>
    let d := x.enrich d
    .ok ⟨x.index, x.kind, d.id, d.toJson⟩
  | .error m => .error (.decode x.kind.label m.message)

/-- How far a run has come: the backend's state, the requests that wait, the documents read and
    the batches sent. -/
structure Progress (σ : Type) where
  state : σ
  pending : Array Request
  total : Nat
  batches : Array BatchOutcome

variable {σ : Type}

/-- Sends what waits as one batch. -/
def flush (b : Backend σ) (p : Progress σ) : Progress σ :=
  let batch := p.pending.toList
  let (answer, state) := b.submit p.state batch
  let outcome : BatchOutcome :=
    match answer with
    | .ok _ => ⟨batch.map (·.id), true, none⟩
    | .error f => ⟨batch.map (·.id), false, some f.message⟩
  { state, pending := #[], total := p.total, batches := p.batches.push outcome }

/-- Takes up one request, and sends the batch if that fills it. -/
def add (b : Backend σ) (maxCount : Nat) (p : Progress σ) (r : Request) : Progress σ :=
  let p := { p with pending := p.pending.push r, total := p.total + 1 }
  if maxCount ≤ p.pending.size then flush b p else p

/-- Reads rows until the end or the first that is no document. -/
def readRows (x : Indexing) (b : Backend σ) :
    List Json → Progress σ → Progress σ × Option Failure
  | [], p => (p, none)
  | row :: rest, p =>
    match x.prepare row with
    | .ok r => x.readRows b rest (add b x.maxCount p r)
    | .error f => (p, some f)

/-- Runs: the report, or the failure of the query, and the backend's state after it. -/
def run (x : Indexing) (b : Backend σ) (state : σ) : Except Failure Report × σ :=
  match x.source.execute x.query with
  | .error f => (.error f, state)
  | .ok cursor =>
    let (p, bad) := x.readRows b cursor.rows ⟨state, #[], 0, #[]⟩
    let stopped := bad.or cursor.failure
    let p := if p.pending.isEmpty then p else flush b p
    (.ok ⟨x.kind, p.total, p.batches.toList, stopped⟩, p.state)

end Indexing

end LabIndex
