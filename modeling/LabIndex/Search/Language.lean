import LabIndex.Search.Criterion

/-!
# Languages of searches

What a text asks for is up to the language that it is written in. A language says for each text
what it asks for, or in words why it asks for nothing. One language is that of the expressions;
others have more forms, such as ranges of words, sets of words, or words that stand near to each
other.

* `Language.read`: what a text asks for; a blank one asks for nothing in any language;
* `Language.standard`: the language of the expressions.
-/

namespace LabIndex.Search

/-- Why a text asks for nothing. -/
inductive QueryFault where
  | empty
  /-- The language does not allow for it, for a reason in words. -/
  | refused (reason : String)
deriving DecidableEq, Repr

/-- The words for a fault. -/
def QueryFault.message : QueryFault → String
  | empty => "Query cannot be empty"
  | refused reason => "Failed to parse query: " ++ reason

/-- A language that searches are written in. -/
structure Language where
  /-- What a text asks for, or why it asks for nothing. -/
  parse : String → Except String Criterion

namespace Language

/-- What a text asks for, if it is not blank. -/
def read (language : Language) (text : String) : Except QueryFault Criterion :=
  if Text.isAllBlank text.toList then .error .empty
  else (language.parse text).mapError .refused

/-- The language of the expressions. -/
def standard : Language := ⟨fun text => (Criterion.parse text).mapError ExpressionFault.message⟩

end Language

end LabIndex.Search
