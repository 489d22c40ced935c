import LabIndex.Kind
import LabIndex.Failure
import LabIndex.Json.Basic

/-!
# Index requests

A request asks the index to hold a document under a key. The key is the name of the index, the
kind and the id; its written form joins the three with slashes. A backend takes requests in
batches, each as a whole or not at all, and may answer differently each time: what it answers
depends on its state.
-/

namespace LabIndex

/-- The key of a document. -/
structure DocumentKey where
  index : String
  kind : Kind
  id : String
deriving DecidableEq, Repr

/-- The written form of a key. -/
def DocumentKey.uid (k : DocumentKey) : String := k.index ++ "/" ++ k.kind.label ++ "/" ++ k.id

/-- A document to be held under a key. -/
structure Request where
  index : String
  kind : Kind
  id : String
  document : Json
deriving Repr, Inhabited

/-- The key of a request. -/
def Request.key (r : Request) : DocumentKey := ⟨r.index, r.kind, r.id⟩

/-- The written form of a request's key. -/
def Request.uid (r : Request) : String := r.key.uid

/-- Something that takes batches: the answer is the number of documents taken. -/
structure Backend (σ : Type) where
  submit : σ → List Request → Except Failure Nat × σ

end LabIndex
