import LabIndex.Search.Expression
import LabIndex.Search.Profile

/-!
# Search criteria

What an expression asks of a document, once its fields are looked up and its words are found. A
literal in the text field stands for the words in it: for none, one, or several in a row; in any
other field it stands for itself as a whole.

* Parts that ask for nothing are dropped from the lists that they stand in.
* An expression that only excludes is refused.
* A criterion may also ask for what no expression of these spells, as long as it says which documents
  that is.
-/

namespace LabIndex.Search

open Decimal (Double)

/-! ## 1. Faults -/

/-- Why an expression cannot be searched for. -/
inductive ExpressionFault where
  /-- The text is no expression. -/
  | malformed (text : String)
  | noField (name : String)
  | notSearchable (name : String)
  | onlyExcludes
deriving DecidableEq, Repr

/-- The words for a fault. -/
def ExpressionFault.message : ExpressionFault → String
  | malformed text => "Syntax Error: " ++ text
  | noField name => "Field does not exist: '" ++ name ++ "'"
  | notSearchable name => "The field '" ++ name ++ "' is not declared as indexed"
  | onlyExcludes => "Invalid query: Only excluding terms given"

/-! ## 2. Criteria -/

/-- What is asked in a way for which there is no expression: which documents meet it, among those of
    an index, and how well one does that meets it, at some weight. -/
structure Form where
  accepts : Corpus → Profile → Bool
  score : Corpus → Profile → Float32 → Float32

/-- What is asked of a document. -/
inductive Criterion where
  | all
  /-- A field holds a word. -/
  | term (field : Field) (word : String)
  /-- The text field holds words at these distances from each other. -/
  | phrase (words : List Word)
  /-- Another criterion, its score multiplied. -/
  | boost (inner : Criterion) (factor : Double)
  /-- All that must be met and none that must not; without any that must be met, one of those that
      should be. -/
  | list (operands : List (Occur × Criterion))
  /-- Something that no expression asks for. -/
  | other (form : Form)
deriving Inhabited

namespace Criterion

/-- The criterion for a literal in a field. -/
def ofLiteral (field : Field) (text : String) : Criterion :=
  match field with
  | .text =>
    match words text with
    | [] => .list []
    | [w] => .term .text w.text
    | ws => .phrase ws
  | field => .term field text

/-- The field that a name stands for. A name with a dot leads into a field, which none allows. -/
def lookUp (name : String) : Except ExpressionFault Field :=
  match Field.ofName? name with
  | some .source => .error (.notSearchable name)
  | some field => .ok field
  | none =>
    let outer := String.ofList (name.toList.takeWhile (· ≠ '.'))
    match Field.ofName? outer with
    | some .source => .error (.notSearchable outer)
    | _ => .error (.noField name)

mutual

/-- The criterion of an expression, nothing dropped. -/
def ofExpression : Expression → Except ExpressionFault Criterion
  | .all => .ok .all
  | .literal none text => .ok (ofLiteral .text text)
  | .literal (some name) text => (lookUp name).map fun field => ofLiteral field text
  | .boost inner factor => (ofExpression inner).map fun c => .boost c factor
  | .list operands => (ofOperands operands).map .list

/-- The criteria of operands. -/
def ofOperands : List (Option Occur × Expression) → Except ExpressionFault (List (Occur × Criterion))
  | [] => .ok []
  | (occur, e) :: rest =>
    match ofExpression e with
    | .error f => .error f
    | .ok c =>
      match ofOperands rest with
      | .error f => .error f
      | .ok more => .ok ((occur.getD .should, c) :: more)

end

mutual

/-- The criterion only excludes. -/
def onlyExcludes : Criterion → Bool
  | .boost inner _ => onlyExcludes inner
  | .list operands => allExclude operands
  | _ => false

/-- All operands exclude. -/
def allExclude : List (Occur × Criterion) → Bool
  | [] => true
  | (occur, c) :: rest => (occur == .mustNot || onlyExcludes c) && allExclude rest

end

mutual

/-- The criterion without the parts that ask for nothing. -/
def trim : Criterion → Criterion
  | .list operands => .list (trimOperands operands)
  | c => c

/-- The operands without those that ask for nothing. -/
def trimOperands : List (Occur × Criterion) → List (Occur × Criterion)
  | [] => []
  | (occur, c) :: rest =>
    match trim c with
    | .list [] => trimOperands rest
    | c => (occur, c) :: trimOperands rest

end

/-- An empty list of operands. -/
def isNothing : Criterion → Bool
  | .list [] => true
  | _ => false

/-- The criterion that a text spells. -/
def parse (text : String) : Except ExpressionFault Criterion :=
  match Expression.parse? text with
  | none => .error (.malformed text)
  | some e =>
    match ofExpression e with
    | .error f => .error f
    | .ok c => if !c.isNothing && c.onlyExcludes then .error .onlyExcludes else .ok c.trim

/-- A criterion narrowed to a kind. -/
def narrow (kind : Option Kind) (c : Criterion) : Criterion :=
  match kind with
  | none => c
  | some k => .list [(.must, c), (.must, .term .kind k.label)]

end Criterion

end LabIndex.Search
