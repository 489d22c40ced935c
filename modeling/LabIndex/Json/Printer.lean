import LabIndex.Json.Basic
import LabIndex.Decimal.Notation
import LabIndex.Text.Quoted

/-!
# JSON text

Two spellings of a value: compact, without any blank; and indented, two blanks a level, one field
or element a line. Both write fields in the order in which the object holds them, strings with
the short escapes and numbers with their shortest digits.
-/

namespace LabIndex

open Decimal (Layout Double padded)

/-- JSON numbers are positional from 10⁻⁵ up to 10¹⁶, then always with a fraction; beyond that
    they have an exponent, which carries its sign. -/
def Number.layout : Layout := ⟨-5, 15, ".0", "e", "+"⟩

/-- The text of a number. -/
def Number.text : Number → String
  | .int n => toString n
  | .double x => if x.isFinite then Number.layout.writeDouble x else "null"

namespace Json

/-- The text of one character inside a string. -/
def escapeChar (c : Char) : List Char :=
  if c = '"' then ['\\', '"']
  else if c = '\\' then ['\\', '\\']
  else if c = '\n' then ['\\', 'n']
  else if c = '\r' then ['\\', 'r']
  else if c = '\t' then ['\\', 't']
  else if c.toNat = 8 then ['\\', 'b']
  else if c.toNat = 12 then ['\\', 'f']
  else if c.toNat < 32 then
    ['\\', 'u', '0', '0'] ++ (if c.toNat < 16 then ['0'] else []) ++ Text.hexDigits c.toNat
  else [c]

/-- A string with its quotes and escapes. -/
def stringText (s : String) : String :=
  "\"" ++ String.ofList (s.toList.flatMap escapeChar) ++ "\""

/-! ## 1. Compact -/

mutual

/-- The compact text of a value. -/
def text : Json → String
  | .null => "null"
  | .bool true => "true"
  | .bool false => "false"
  | .num n => n.text
  | .str s => stringText s
  | .arr items => "[" ++ itemsText items ++ "]"
  | .obj fields => "\x7b" ++ fieldsText fields ++ "\x7d"

/-- Elements with commas between them. -/
def itemsText : List Json → String
  | [] => ""
  | [v] => v.text
  | v :: w :: rest => v.text ++ "," ++ itemsText (w :: rest)

/-- Fields with commas between them. -/
def fieldsText : List (String × Json) → String
  | [] => ""
  | [(k, v)] => stringText k ++ ":" ++ v.text
  | (k, v) :: f :: rest => stringText k ++ ":" ++ v.text ++ "," ++ fieldsText (f :: rest)

end

/-! ## 2. Indented -/

/-- A line break and the blanks of a level. -/
def newLine (level : Nat) : String := "\n" ++ String.ofList (List.replicate (2 * level) ' ')

mutual

/-- The indented text of a value that stands at a level. -/
def prettyAt (level : Nat) : Json → String
  | .arr [] => "[]"
  | .arr (v :: rest) => "[" ++ prettyItems (level + 1) (v :: rest) ++ newLine level ++ "]"
  | .obj [] => "\x7b\x7d"
  | .obj (f :: rest) => "\x7b" ++ prettyFields (level + 1) (f :: rest) ++ newLine level ++ "\x7d"
  | .null => "null"
  | .bool true => "true"
  | .bool false => "false"
  | .num n => n.text
  | .str s => stringText s

/-- Elements, each on its line. -/
def prettyItems (level : Nat) : List Json → String
  | [] => ""
  | [v] => newLine level ++ v.prettyAt level
  | v :: w :: rest =>
    newLine level ++ v.prettyAt level ++ "," ++ prettyItems level (w :: rest)

/-- Fields, each on its line. -/
def prettyFields (level : Nat) : List (String × Json) → String
  | [] => ""
  | [(k, v)] => newLine level ++ stringText k ++ ": " ++ v.prettyAt level
  | (k, v) :: f :: rest =>
    newLine level ++ stringText k ++ ": " ++ v.prettyAt level ++ "," ++
      prettyFields level (f :: rest)

end

/-- The indented text of a value. -/
def pretty (v : Json) : String := v.prettyAt 0

end Json

end LabIndex
