import LabIndex.Search.Criterion

/-!
# Which documents meet a criterion

* `Criterion.accepts`: a document of an index meets a criterion.
-/

namespace LabIndex.Search

namespace Criterion

/-- What is found out about the operands of a list: whether one must be met, whether all of those
    are, whether one that should be met is, and whether one that must not be met is. -/
structure Tally where
  required : Bool := false
  allMet : Bool := true
  someMet : Bool := false
  excluded : Bool := false
deriving DecidableEq, Repr

/-- Takes up one operand. -/
def Tally.add (t : Tally) (occur : Occur) (met : Bool) : Tally :=
  match occur with
  | .must => { t with required := true, allMet := t.allMet && met }
  | .should => { t with someMet := t.someMet || met }
  | .mustNot => { t with excluded := t.excluded || met }

/-- The list is met. -/
def Tally.isMet (t : Tally) : Bool :=
  (if t.required then t.allMet else t.someMet) && !t.excluded

mutual

/-- A document meets a criterion, among the documents of an index. -/
def accepts (corpus : Corpus) (p : Profile) : Criterion → Bool
  | .all => true
  | .term field word => p.frequency field word != 0
  | .phrase words => p.occurrences words != 0
  | .boost inner _ => accepts corpus p inner
  | .list operands => (tally corpus p operands).isMet
  | .other form => form.accepts corpus p

/-- What is found out about operands. -/
def tally (corpus : Corpus) (p : Profile) : List (Occur × Criterion) → Tally
  | [] => {}
  | (occur, c) :: rest => (tally corpus p rest).add occur (accepts corpus p c)

end

end Criterion

end LabIndex.Search
