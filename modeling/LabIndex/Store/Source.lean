import LabIndex.Store.Records

/-!
# Sources of rows

What an indexing run reads from: something that runs a query and hands back rows, which may stop
before the end with a failure. A store is such a source; its rows never stop early.
-/

namespace LabIndex

/-- The rows of a query, and what stopped them if something did. -/
structure Cursor where
  rows : List Json
  failure : Option Failure
deriving Repr

/-- Anything that can run a query. -/
structure Source where
  execute : Query → Except Failure Cursor

namespace Source

/-- A store as a source. -/
def ofStore (s : Store) : Source := ⟨fun q => (s.query q).map fun rows => ⟨rows, none⟩⟩

/-- A source whose rows always stop with a failure, after `n` of them at the latest. -/
def cutAfter (src : Source) (n : Nat) (reason : String) : Source :=
  ⟨fun q => (src.execute q).map fun c => ⟨c.rows.take n, some (.cursor reason)⟩⟩

/-- All rows of a query; rows that stop early are a failure. -/
def allRows (src : Source) (q : Query) : Except Failure (List Json) := do
  let c ← src.execute q
  match c.failure with
  | none => return c.rows
  | some f => throw (.cursor f.message)

end Source

end LabIndex
