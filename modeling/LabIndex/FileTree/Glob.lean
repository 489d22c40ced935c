/-!
# Path patterns

In a pattern `?` stands for one character, `*` for any number of them (slashes too), a list in
brackets for one of its characters or, after `!`, for any other, and `**` as a whole component for
any number of leading components; at the end of a pattern it stands for everything that is left.
Everything else stands for itself.

* `Glob.parse`: a pattern, or the place and the reason why a text is none;
* `Glob.fits`: a text as a whole fits a pattern.
-/

namespace LabIndex

namespace Glob

/-! ## 1. Patterns -/

/-- One character or a range of characters inside brackets. -/
inductive CharSpec where
  | single (c : Char)
  | range (low high : Char)
deriving DecidableEq, Repr

/-- A part of a pattern. -/
inductive Token where
  | char (c : Char)
  | anyChar
  | anySequence
  /-- Any number of whole leading components, their slashes included, or all that is left. -/
  | anyComponents
  | within (specs : List CharSpec)
  | except (specs : List CharSpec)
deriving DecidableEq, Repr

/-- Why a text is no pattern. -/
inductive Reason where
  | wildcards
  | recursiveWildcards
  | invalidRange
deriving DecidableEq, Repr

/-- A reason, and the place it was found at, counted in characters. -/
structure Fault where
  position : Nat
  reason : Reason
deriving DecidableEq, Repr

/-- The words for a reason. -/
def Reason.message : Reason → String
  | wildcards => "wildcards are either regular `*` or recursive `**`"
  | recursiveWildcards => "recursive wildcards must form a single path component"
  | invalidRange => "invalid range pattern"

/-- The message of a fault. -/
def Fault.message (f : Fault) : String :=
  "Pattern syntax error near position " ++ toString f.position ++ ": " ++ f.reason.message

/-! ## 2. Reading -/

/-- The characters and ranges between brackets. -/
def charSpecs : List Char → List CharSpec
  | a :: '-' :: b :: rest => .range a b :: charSpecs rest
  | a :: rest => .single a :: charSpecs rest
  | [] => []

/-- Splits a text behind the first closing bracket; the first character is not looked at. -/
def untilBracket : List Char → Option (List Char × List Char)
  | [] => none
  | c :: rest =>
    let body := rest.takeWhile (· ≠ ']')
    match rest.drop body.length with
    | [] => none
    | _ :: after => some (c :: body, after)

/-- Reads what follows an opening bracket: the token and the text after it. -/
def readBrackets : List Char → Option (Token × List Char)
  | '!' :: rest => (untilBracket rest).map fun (body, after) => (.except (charSpecs body), after)
  | rest => (untilBracket rest).map fun (body, after) => (.within (charSpecs body), after)

/-- Appends a token for any components, unless the last of several tokens is one. -/
def pushComponents (tokens : List Token) : List Token :=
  if 1 < tokens.length && tokens.getLast? == some .anyComponents then tokens
  else tokens ++ [.anyComponents]

/-- Reads tokens. The arguments are the steps allowed, the position, the character before it and
    the tokens so far. -/
def parseFrom : Nat → Nat → Option Char → List Token → List Char → Except Fault (List Token)
  | 0, _, _, tokens, _ => .ok tokens
  | fuel + 1, pos, before, tokens, cs =>
    match cs with
    | [] => .ok tokens
    | '?' :: rest => parseFrom fuel (pos + 1) (some '?') (tokens ++ [.anyChar]) rest
    | '*' :: '*' :: '*' :: _ => .error ⟨pos + 2, .wildcards⟩
    | '*' :: '*' :: rest =>
      if before.isNone || before == some '/' then
        match rest with
        | [] => .ok (pushComponents tokens)
        | '/' :: rest => parseFrom fuel (pos + 3) (some '/') (pushComponents tokens) rest
        | _ => .error ⟨pos + 2, .recursiveWildcards⟩
      else .error ⟨pos - 1, .recursiveWildcards⟩
    | '*' :: rest => parseFrom fuel (pos + 1) (some '*') (tokens ++ [.anySequence]) rest
    | '[' :: rest =>
      match readBrackets rest with
      | none => .error ⟨pos, .invalidRange⟩
      | some (token, after) =>
        parseFrom fuel (pos + 1 + (rest.length - after.length)) (some ']') (tokens ++ [token]) after
    | c :: rest => parseFrom fuel (pos + 1) (some c) (tokens ++ [.char c]) rest

/-- The pattern that a text spells. -/
def parse (s : String) : Except Fault (List Token) :=
  parseFrom (s.toList.length + 1) 0 none [] s.toList

/-! ## 3. Matching -/

/-- A character fits a specification. -/
def CharSpec.accepts (c : Char) : CharSpec → Bool
  | .single d => c == d
  | .range low high => low ≤ c && c ≤ high

/-- A character fits a token that stands for one character. -/
def Token.accepts (c : Char) : Token → Bool
  | .char d => c == d
  | .anyChar => true
  | .within specs => specs.any (·.accepts c)
  | .except specs => !specs.any (·.accepts c)
  | .anySequence => false
  | .anyComponents => false

/-- The ends of a text, itself first. -/
def suffixes : List Char → List (List Char)
  | [] => [[]]
  | c :: rest => (c :: rest) :: suffixes rest

/-- The ends of a text behind its slashes, and its very end. -/
def afterSlashes : List Char → List (List Char)
  | [] => [[]]
  | c :: rest => if c = '/' then rest :: afterSlashes rest else afterSlashes rest

/-- A text as a whole fits a pattern. -/
def fits : List Token → List Char → Bool
  | [], s => s.isEmpty
  | .anySequence :: tokens, s => (suffixes s).any fun r => fits tokens r
  | .anyComponents :: tokens, s => (s :: afterSlashes s).any fun r => fits tokens r
  | token :: tokens, s =>
    match s with
    | [] => false
    | c :: rest => token.accepts c && fits tokens rest

end Glob

end LabIndex
