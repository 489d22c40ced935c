import LabIndex.Text.Alphabet
import LabIndex.Decimal.Binary

/-!
# Search expressions

What a person types to search. A word or a phrase in quotes stands for itself, with a field's name
and a colon in front for what that field holds, and a star for everything. Expressions are put side
by side, with `+` before what must be there and `-` before what must not, or joined with `AND` and
`OR`, of which `AND` binds tighter; `NOT` excludes what follows it, and parentheses group. A caret
with a number after an expression weighs it.

Ranges and sets of words, and phrases whose words may stand apart or of which the last is only begun,
are not among the expressions. They belong to other languages that a search can be written in.

* `Expression.parse?`: the expression that a text spells.
-/

namespace LabIndex.Search

open Decimal (Double)

/-! ## 1. Expressions -/

/-- What part an operand plays in a list. -/
inductive Occur where
  | must
  | should
  | mustNot
deriving DecidableEq, Repr, Inhabited

/-- A search expression. -/
inductive Expression where
  /-- Every document. -/
  | all
  /-- A word or phrase, perhaps in a field. -/
  | literal (field : Option String) (text : String)
  /-- A weighed expression. -/
  | boost (inner : Expression) (factor : Double)
  /-- Operands side by side. -/
  | list (operands : List (Option Occur × Expression))
deriving Repr, Inhabited

/-- A word that joins two operands. -/
inductive Joint where
  | and
  | or
deriving DecidableEq, Repr

namespace Expression

/-! ## 2. Characters -/

/-- A blank between operands. -/
def isGap (c : Char) : Bool := c = ' ' || c = '\t' || c = '\r' || c = '\n'

/-- The text without the blanks at its start. -/
def skipGap (cs : List Char) : List Char := cs.dropWhile isGap

/-- The text after at least one blank, and all that follow it. -/
def needGap : List Char → Option (List Char)
  | c :: rest => if isGap c then some (skipGap rest) else none
  | [] => none

/-- Characters that stand in no field name by themselves. -/
def fieldMarks : List Char :=
  ['+', '^', '\x60', ':', '\x7b', '\x7d', '"', '\'', '[', ']', '(', ')', '!', '\\', '*', ' ']

/-- Characters that stand in no word by themselves. -/
def wordMarks : List Char :=
  ['^', '\x60', ':', '\x7b', '\x7d', '"', '\'', '[', ']', '(', ')', '\\']

/-! ## 3. Words and phrases -/

/-- The characters of a field name behind the first. -/
def readFieldRest : List Char → List Char × List Char
  | '\\' :: c :: rest =>
    if fieldMarks.contains c then
      let (name, after) := readFieldRest rest
      (c :: name, after)
    else
      let (name, after) := readFieldRest (c :: rest)
      ('\\' :: name, after)
  | '\\' :: [] => (['\\'], [])
  | c :: rest =>
    if fieldMarks.contains c then ([], c :: rest)
    else
      let (name, after) := readFieldRest rest
      (c :: name, after)
  | [] => ([], [])

/-- A field name with its colon. -/
def readField (cs : List Char) : Option (String × List Char) :=
  let begin? : Option (Char × List Char) :=
    match cs with
    | '\\' :: c :: rest => if fieldMarks.contains c then some (c, rest) else none
    | c :: rest => if fieldMarks.contains c || c = '-' then none else some (c, rest)
    | [] => none
  match begin? with
  | none => none
  | some (c, rest) =>
    match readFieldRest rest with
    | (name, ':' :: after) => some (String.ofList (c :: name), after)
    | _ => none

/-- A character that stands in a word by itself. -/
def isPlainWordChar (c : Char) : Bool := !Text.isBlank c && !wordMarks.contains c

/-- The characters of a word, escapes as they are written. -/
def readWordRest : List Char → List Char × List Char
  | '\\' :: c :: rest =>
    let (word, after) := readWordRest rest
    ('\\' :: c :: word, after)
  | c :: rest =>
    if isPlainWordChar c then
      let (word, after) := readWordRest rest
      (c :: word, after)
    else ([], c :: rest)
  | [] => ([], [])

/-- A character that a backslash takes its meaning from. -/
def isEscapable (c : Char) : Bool := Text.isBlank c || wordMarks.contains c || c = '-'

/-- A word without the backslashes that take meanings away. -/
def unescape : List Char → List Char
  | '\\' :: c :: rest => if isEscapable c then c :: unescape rest else '\\' :: c :: unescape rest
  | '\\' :: [] => []
  | c :: rest => c :: unescape rest
  | [] => []

/-- Words with a meaning of their own. -/
def reserved : List String := ["OR", "AND", "NOT", "IN"]

/-- A word. -/
def readWord (cs : List Char) : Option (String × List Char) :=
  match cs with
  | '-' :: _ => none
  | _ =>
    match readWordRest cs with
    | ([], _) => none
    | (word, after) =>
      if reserved.contains (String.ofList word) then none
      else some (String.ofList (unescape word), after)

/-- The text up to a quote; a backslash takes the meaning from the character after it. -/
def readQuoted (quote : Char) : List Char → Option (List Char × List Char)
  | [] => none
  | '\\' :: c :: rest => (readQuoted quote rest).map fun (s, after) => (c :: s, after)
  | c :: rest =>
    if c = quote then some ([], rest)
    else (readQuoted quote rest).map fun (s, after) => (c :: s, after)

/-- Digits, at least one, and the text after them. -/
def readDigits (cs : List Char) : Option (List Char × List Char) :=
  match cs.takeWhile Char.isDigit with
  | [] => none
  | digits => some (digits, cs.drop digits.length)

/-- Digits, perhaps with a point and more digits. -/
def readDecimal (cs : List Char) : Option (List Char × List Char × List Char) := do
  let (whole, rest) ← readDigits cs
  match rest with
  | '.' :: more =>
    match readDigits more with
    | some (fraction, after) => return (whole, fraction, after)
    | none => return (whole, [], rest)
  | _ => return (whole, [], rest)

/-- A negative number, as a word. -/
def readNegative : List Char → Option (String × List Char)
  | '-' :: rest => do
    let (whole, fraction, after) ← readDecimal rest
    let tail := if fraction.isEmpty then [] else '.' :: fraction
    return (String.ofList ('-' :: whole ++ tail), after)
  | _ => none

/-- A word, a negative number or a phrase in quotes. -/
def readTerm (cs : List Char) : Option (String × List Char) :=
  match readNegative cs with
  | some r => some r
  | none =>
    match cs with
    | '"' :: rest => (readQuoted '"' rest).map fun (s, after) => (String.ofList s, after)
    | '\'' :: rest => (readQuoted '\'' rest).map fun (s, after) => (String.ofList s, after)
    | cs => readWord cs

/-! ## 4. Operands -/

/-- The sign in front of an operand. -/
def readSign : List Char → Option Occur × List Char
  | '-' :: rest => (some .mustNot, rest)
  | '+' :: rest => (some .must, rest)
  | cs => (none, cs)

/-- The terms of a field's list, up to its closing parenthesis. The first argument bounds their
    number. -/
def readFieldTerms (field : String) :
    Nat → List Char → Option (List (Option Occur × Expression) × List Char)
  | 0, _ => none
  | fuel + 1, cs =>
    let (sign, rest) := readSign cs
    match readTerm rest with
    | none => none
    | some (text, after) =>
      let operand := (sign, Expression.literal (some field) text)
      match after with
      | ')' :: after => some ([operand], after)
      | after =>
        match needGap after with
        | none => none
        | some rest => (readFieldTerms field fuel rest).map fun (more, after) =>
          (operand :: more, after)

/-- A field with a list of terms in parentheses. -/
def readFieldList (cs : List Char) : Option (Expression × List Char) :=
  match readField cs with
  | none => none
  | some (field, rest) =>
    match skipGap rest with
    | '(' :: rest =>
      match skipGap rest with
      | ')' :: after => some (.list [], after)
      | rest =>
        (readFieldTerms field (rest.length + 1) rest).map fun (terms, after) => (.list terms, after)
    | _ => none

/-- A term, perhaps in a field, or a field with a list of terms. -/
def readLiteral (cs : List Char) : Option (Expression × List Char) :=
  let (field, rest) :=
    match readField cs with
    | some (field, rest) => (some field, rest)
    | none => (none, cs)
  match readTerm rest with
  | some (text, after) => some (.literal field text, after)
  | none => readFieldList cs

/-- The number that digits with a point make. -/
def decimalValue (whole fraction : List Char) : Double :=
  let n := (whole ++ fraction).foldl (fun n c => 10 * n + (c.toNat - '0'.toNat)) 0
  Double.nearest n (Nat.pow 10 fraction.length)

/-- The bits of the number one. -/
def oneBits : Nat := 0x3FF0000000000000

/-- A factor that is one, or as near to it as makes no difference. -/
def isNeutral (factor : Double) : Bool :=
  oneBits - 2 ≤ factor.bits.toNat && factor.bits.toNat ≤ oneBits + 1

/-- Applies the weight that follows an expression, if one does. -/
def readBoost (e : Expression) (cs : List Char) : Expression × List Char :=
  match cs with
  | '^' :: rest =>
    match readDecimal rest with
    | some (whole, fraction, after) =>
      let factor := decimalValue whole fraction
      (if isNeutral factor then e else .boost e factor, after)
    | none => (e, cs)
  | _ => (e, cs)

/-- The word between two operands. -/
def readJoint : List Char → Option Joint × List Char
  | 'A' :: 'N' :: 'D' :: ' ' :: rest => (some .and, rest)
  | 'O' :: 'R' :: ' ' :: rest => (some .or, rest)
  | cs => (none, cs)

/-! ## 5. Lists -/

/-- An operand as it stands in a list: the word and the sign in front of it. -/
structure Operand where
  joint : Option Joint
  sign : Option Occur
  expression : Expression

/-- The part that an operand without a sign plays, given the words before and behind it. -/
def defaultOccur (before behind : Option Joint) : Option Occur :=
  match before, behind with
  | some .and, _ => some .must
  | some .or, some .and => some .must
  | some .or, _ => some .should
  | none, some .and => some .must
  | none, some .or => some .should
  | none, none => none

/-- Groups operands: those joined with `AND` stand together. The groups come last one first, and so
    do the operands in them. -/
def groupsFrom (groups : List (List (Option Occur × Expression))) :
    List Operand → List (List (Option Occur × Expression))
  | [] => groups
  | o :: rest =>
    let behind := rest.head?.bind (·.joint)
    let operand := (o.sign.or (defaultOccur o.joint behind), o.expression)
    match o.joint, groups with
    | some .and, group :: others => groupsFrom ((operand :: group) :: others) rest
    | _, groups => groupsFrom ([operand] :: groups) rest

/-- The expression for operands side by side. -/
def ofOperands (operands : List Operand) : Expression :=
  let groups := ((groupsFrom [] operands).map List.reverse).reverse
  match groups with
  | [group] => .list group
  | groups => .list (groups.map fun group =>
    match group with
    | [operand] => operand
    | group => (some .should, .list group))

mutual

/-- Reads an expression that is no list, without its weight. The first argument bounds the steps. -/
def readLeaf : Nat → List Char → Option (Expression × List Char)
  | 0, _ => none
  | fuel + 1, cs =>
    match cs with
    | '(' :: rest =>
      match readList fuel rest with
      | some (e, ')' :: after) => some (e, after)
      | _ => none
    | '*' :: rest => some (.all, rest)
    | cs =>
      match readNegation fuel cs with
      | some r => some r
      | none => readLiteral cs

/-- Reads an excluded expression. -/
def readNegation : Nat → List Char → Option (Expression × List Char)
  | 0, _ => none
  | fuel + 1, cs =>
    match cs with
    | 'N' :: 'O' :: 'T' :: rest =>
      match needGap rest with
      | none => none
      | some rest =>
        (readLeaf fuel rest).map fun (e, after) => (.list [(some .mustNot, e)], after)
    | _ => none

/-- Reads an operand with its sign and weight. -/
def readOperand : Nat → List Char → Option (Option Occur × Expression × List Char)
  | 0, _ => none
  | fuel + 1, cs =>
    let (sign, rest) := readSign cs
    match readLeaf fuel rest with
    | none => none
    | some (e, rest) =>
      let (e, after) := readBoost e rest
      some (sign, e, after)

/-- Reads the operands behind the first. -/
def readMore : Nat → List Char → List Operand × List Char
  | 0, cs => ([], cs)
  | fuel + 1, cs =>
    let (joint, rest) := readJoint cs
    match readOperand fuel (skipGap rest) with
    | none => ([], cs)
    | some (sign, e, rest) =>
      let (more, after) := readMore fuel (skipGap rest)
      (⟨joint, sign, e⟩ :: more, after)

/-- Reads operands side by side. -/
def readList : Nat → List Char → Option (Expression × List Char)
  | 0, _ => none
  | fuel + 1, cs =>
    match readOperand fuel (skipGap cs) with
    | none => none
    | some (sign, e, rest) =>
      let alone : Expression := if sign = some .mustNot then .list [(sign, e)] else e
      match needGap rest with
      | none => some (alone, skipGap rest)
      | some rest =>
        match readMore fuel rest with
        | ([], _) => some (alone, rest)
        | (more, after) => some (ofOperands (⟨none, sign, e⟩ :: more), after)

end

/-- The expression that a text spells; blanks alone spell an empty list. -/
def parse? (s : String) : Option Expression :=
  let cs := skipGap s.toList
  match readList (4 * cs.length + 4) cs with
  | some (e, []) => some e
  | some _ => none
  | none => if cs.isEmpty then some (.list []) else none

end Expression

end LabIndex.Search
