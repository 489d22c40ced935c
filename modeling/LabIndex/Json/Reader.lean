import LabIndex.Json.Basic

/-!
# Reading JSON

A text is one value with blanks around it. Of two fields with one key the later stays, and values
nest at most 127 deep. The reader works on characters and always returns what is left.

A number without fraction and exponent that lies between -2⁶³ and 2⁶⁴ - 1 is whole, except `-0`,
which is the negative zero. Any other number is a double: its digits form a whole number as long as
that number fits 64 bits (later digits are dropped), which is rounded once, and then multiplied or
divided by powers of ten, with one rounding each. A number that is too large for a double is no
number.
-/

namespace LabIndex

open Decimal (Double)

/-! ## 1. Numbers -/

namespace Number

/-- The value of a decimal digit. -/
def digitValue (c : Char) : Nat := c.toNat - '0'.toNat

/-- Appends digits to a number while it fits 64 bits; what is left are the dropped digits. -/
def absorb (n : Nat) : List Char → Nat × List Char
  | [] => (n, [])
  | c :: rest =>
    let next := n * 10 + digitValue c
    if next < 0x10000000000000000 then absorb next rest else (n, c :: rest)

/-- Multiplies by a power of ten: in one step up to 10³⁰⁸ either way, in several steps below
    that. -/
def scale : Nat → Double → Int → Option Double
  | 0, x, _ => some x
  | fuel + 1, x, e =>
    if e.natAbs ≤ 308 then
      let power := Double.ofNat (Nat.pow 10 e.natAbs)
      if 0 ≤ e then
        let y := x.times power
        if y.isFinite then some y else none
      else some (x.dividedBy power)
    else if x.isZero then some x
    else if 0 ≤ e then none
    else scale fuel (x.dividedBy (Double.ofNat (Nat.pow 10 308))) (e + 308)

/-- The magnitude of a number with these digits and this exponent. An exponent beyond 31 bits
    makes the number zero or too large. -/
def magnitude (whole fraction : List Char) (exponent : Int) : Option Double :=
  let (n, droppedWhole) := absorb 0 whole
  let (n, droppedFraction) := absorb n fraction
  let shift : Int := droppedWhole.length - (fraction.length - droppedFraction.length)
  if 0x80000000 ≤ exponent.natAbs then
    if n = 0 ∨ exponent < 0 then some (Double.ofNat 0) else none
  else scale 8 (Double.ofNat n) (shift + exponent)

/-- Takes the sign off an exponent: it is negative, and what follows. -/
def exponentSign : List Char → Bool × List Char
  | '+' :: r => (false, r)
  | '-' :: r => (true, r)
  | r => (false, r)

/-- Reads the exponent part, if there is one. -/
def exponentPart : List Char → Option (Option Int × List Char)
  | c :: rest =>
    if c = 'e' ∨ c = 'E' then
      let (negative, rest) := exponentSign rest
      match rest.span Char.isDigit with
      | ([], _) => none
      | (ds, rest) =>
        let n : Int := ds.foldl (fun acc d => acc * 10 + digitValue d) 0
        some (some (if negative then -n else n), rest)
    else some (none, c :: rest)
  | [] => some (none, [])

/-- Reads the fraction part, if there is one. -/
def fractionPart : List Char → Option (Option (List Char) × List Char)
  | '.' :: rest =>
    match rest.span Char.isDigit with
    | ([], _) => none
    | (ds, rest) => some (some ds, rest)
  | rest => some (none, rest)

/-- The whole number with this sign and magnitude, where it is one. -/
def whole (negative : Bool) (n : Nat) : Option Number :=
  if negative then
    if n = 0 then some (.double (Double.ofNat 0).negate)
    else if n ≤ 0x8000000000000000 then some (.int (-n))
    else none
  else if n < 0x10000000000000000 then some (.int n)
  else none

/-- Takes the sign off a number: it is negative, and what follows. -/
def sign : List Char → Bool × List Char
  | '-' :: r => (true, r)
  | r => (false, r)

/-- The number with this sign, these digits, and this fraction and exponent if there are any. -/
def ofParts (negative : Bool) (digits : List Char) (fraction : Option (List Char))
    (exponent : Option Int) : Option Number :=
  let n : Nat := digits.foldl (fun acc d => acc * 10 + digitValue d) 0
  match fraction, exponent, whole negative n with
  | none, none, some x => some x
  | _, _, _ =>
    (magnitude digits (fraction.getD []) (exponent.getD 0)).map fun x =>
      .double (if negative then x.negate else x)

/-- Reads a number. -/
def read (cs : List Char) : Option (Number × List Char) :=
  let (negative, cs) := sign cs
  let (digits, cs) := cs.span Char.isDigit
  if digits.isEmpty || (digits.head? == some '0' && digits.length != 1) then none
  else do
    let (fraction, cs) ← fractionPart cs
    let (exponent, cs) ← exponentPart cs
    let n ← ofParts negative digits fraction exponent
    return (n, cs)

end Number

namespace Json

/-! ## 2. Strings -/

/-- The value of a hexadecimal digit. -/
def hexValue (c : Char) : Option Nat :=
  if c.isDigit then some (c.toNat - '0'.toNat)
  else if 'a' ≤ c ∧ c ≤ 'f' then some (c.toNat - 'a'.toNat + 10)
  else if 'A' ≤ c ∧ c ≤ 'F' then some (c.toNat - 'A'.toNat + 10)
  else none

/-- The value of four hexadecimal digits. -/
def hexFour (a b c d : Char) : Option Nat := do
  return (((← hexValue a) * 16 + (← hexValue b)) * 16 + (← hexValue c)) * 16 + (← hexValue d)

/-- The character of an escape with one letter. -/
def shortEscape (c : Char) : Option Char :=
  match c with
  | '"' => some '"'
  | '\\' => some '\\'
  | '/' => some '/'
  | 'b' => some '\x08'
  | 'f' => some '\x0c'
  | 'n' => some '\n'
  | 'r' => some '\r'
  | 't' => some '\t'
  | _ => none

/-- Reads a string up to its closing quote. Two escapes with a leading and a trailing surrogate
    are one character; a surrogate alone is an error, and so is an unescaped control. -/
def readString : List Char → Option (List Char × List Char)
  | [] => none
  | '"' :: rest => some ([], rest)
  | '\\' :: 'u' :: a :: b :: c :: d :: rest =>
    match hexFour a b c d with
    | none => none
    | some n =>
      if 0xD800 ≤ n ∧ n < 0xDC00 then
        match rest with
        | '\\' :: 'u' :: a' :: b' :: c' :: d' :: rest' =>
          match hexFour a' b' c' d' with
          | none => none
          | some m =>
            if 0xDC00 ≤ m ∧ m < 0xE000 then
              (readString rest').map fun (s, r) =>
                (Char.ofNat (0x10000 + (n - 0xD800) * 1024 + (m - 0xDC00)) :: s, r)
            else none
        | _ => none
      else if 0xDC00 ≤ n ∧ n < 0xE000 then none
      else (readString rest).map fun (s, r) => (Char.ofNat n :: s, r)
  | '\\' :: c :: rest =>
    match shortEscape c with
    | some e => (readString rest).map fun (s, r) => (e :: s, r)
    | none => none
  | c :: rest =>
    if c = '\\' ∨ c.toNat < 32 then none
    else (readString rest).map fun (s, r) => (c :: s, r)

/-! ## 3. Values -/

/-- A blank between tokens. -/
def isSpace (c : Char) : Bool := c = ' ' || c = '\n' || c = '\t' || c = '\r'

/-- The text from its first token on. -/
def skipSpace (cs : List Char) : List Char := cs.dropWhile isSpace

mutual

/-- Reads a value that starts at the first character. The first argument bounds the steps, the
    second is the nesting still allowed. -/
def readValue : Nat → Nat → List Char → Option (Json × List Char)
  | 0, _, _ => none
  | fuel + 1, depth, cs =>
    match cs with
    | 'n' :: 'u' :: 'l' :: 'l' :: rest => some (.null, rest)
    | 't' :: 'r' :: 'u' :: 'e' :: rest => some (.bool true, rest)
    | 'f' :: 'a' :: 'l' :: 's' :: 'e' :: rest => some (.bool false, rest)
    | '"' :: rest => (readString rest).map fun (s, r) => (.str (String.ofList s), r)
    | '[' :: rest =>
      match depth with
      | 0 => none
      | depth + 1 =>
        match skipSpace rest with
        | ']' :: rest => some (.arr [], rest)
        | rest => (readItems fuel depth rest).map fun (xs, r) => (.arr xs, r)
    | '\x7b' :: rest =>
      match depth with
      | 0 => none
      | depth + 1 =>
        match skipSpace rest with
        | '\x7d' :: rest => some (.obj [], rest)
        | rest => (readFields fuel depth [] rest).map fun (fs, r) => (.obj fs, r)
    | cs => (Number.read cs).map fun (n, r) => (.num n, r)

/-- Reads elements up to the closing bracket. -/
def readItems : Nat → Nat → List Char → Option (List Json × List Char)
  | 0, _, _ => none
  | fuel + 1, depth, cs =>
    match readValue fuel depth (skipSpace cs) with
    | none => none
    | some (v, rest) =>
      match skipSpace rest with
      | ',' :: rest => (readItems fuel depth rest).map fun (xs, r) => (v :: xs, r)
      | ']' :: rest => some ([v], rest)
      | _ => none

/-- Reads fields up to the closing brace, into those read before. -/
def readFields : Nat → Nat → Fields → List Char → Option (Fields × List Char)
  | 0, _, _, _ => none
  | fuel + 1, depth, acc, cs =>
    match skipSpace cs with
    | '"' :: rest =>
      match readString rest with
      | none => none
      | some (key, rest) =>
        match skipSpace rest with
        | ':' :: rest =>
          match readValue fuel depth (skipSpace rest) with
          | none => none
          | some (v, rest) =>
            let acc := acc.put (String.ofList key) v
            match skipSpace rest with
            | ',' :: rest => readFields fuel depth acc rest
            | '\x7d' :: rest => some (acc, rest)
            | _ => none
        | _ => none
    | _ => none

end

/-- The deepest nesting of a text that is read. -/
def maxDepth : Nat := 127

/-- The value that a text spells, if it is JSON. -/
def parse? (s : String) : Option Json :=
  let cs := s.toList
  match readValue (2 * cs.length + 2) maxDepth (skipSpace cs) with
  | some (v, rest) => if (skipSpace rest).isEmpty then some v else none
  | none => none

end Json

end LabIndex
