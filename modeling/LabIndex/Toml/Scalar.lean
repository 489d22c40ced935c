import LabIndex.Toml.Text
import LabIndex.Timestamp.Calendar

/-!
# Numbers and dates in TOML

A whole number is written in base ten with an optional sign, or in base 16, 8 or 2; it has to fit
64 bits with sign. Underscores may stand between digits, and a number in base ten has no needless
zero in front. A number with a fraction or an exponent is a double; one beyond all doubles is none.
Dates and times are recognised and kept as their text, under a key of its own that no settings use.
-/

namespace LabIndex.Toml

open Decimal (Double)

/-! ## 1. Digits -/

/-- A digit in a base. -/
def isDigitIn (base : Nat) (c : Char) : Bool :=
  match Json.hexValue c with
  | some n => n < base
  | none => false

/-- Reads digits with single underscores between them, from the first digit on. -/
def readDigits (isDigit : Char → Bool) : List Char → List Char × List Char
  | c :: '_' :: d :: rest =>
    if isDigit c && isDigit d then
      let (ds, r) := readDigits isDigit (d :: rest)
      (c :: ds, r)
    else if isDigit c then ([c], '_' :: d :: rest)
    else ([], c :: '_' :: d :: rest)
  | c :: rest =>
    if isDigit c then
      let (ds, r) := readDigits isDigit rest
      (c :: ds, r)
    else ([], c :: rest)
  | [] => ([], [])

/-- The value of digits in a base. -/
def digitsIn (base : Nat) (ds : List Char) : Nat :=
  ds.foldl (fun n d => n * base + (Json.hexValue d).getD 0) 0

/-- A sign, if there is one, and the text after it. -/
def readSign : List Char → Bool × List Char
  | '-' :: rest => (true, rest)
  | '+' :: rest => (false, rest)
  | rest => (false, rest)

/-- Reads the digits of a whole number in base ten: a single zero, or digits that start with
    another one. -/
def readWhole (cs : List Char) : Option (List Char × List Char) :=
  match cs with
  | '0' :: rest => some (['0'], rest)
  | cs =>
    match readDigits (isDigitIn 10) cs with
    | ([], _) => none
    | (ds, rest) => some (ds, rest)

/-! ## 2. Numbers -/

/-- A whole number within 64 bits. -/
def boundedInt (n : Int) : Option Json :=
  if -0x8000000000000000 ≤ n ∧ n < 0x8000000000000000 then some (.ofInt n) else none

/-- Reads digits of another base, from behind its two letters. -/
def readBased (base : Nat) (cs : List Char) : Option (Json × List Char) :=
  match readDigits (isDigitIn base) cs with
  | ([], _) => none
  | (ds, rest) => (boundedInt (digitsIn base ds)).map (·, rest)

/-- Reads a whole number. -/
def readInteger (cs : List Char) : Option (Json × List Char) :=
  match cs with
  | '0' :: 'x' :: rest => readBased 16 rest
  | '0' :: 'o' :: rest => readBased 8 rest
  | '0' :: 'b' :: rest => readBased 2 rest
  | cs =>
    let (negative, cs) := readSign cs
    match readWhole cs with
    | none => none
    | some (ds, rest) =>
      let n : Int := digitsIn 10 ds
      (boundedInt (if negative then -n else n)).map (·, rest)

/-- Reads an exponent, from behind its letter. -/
def readExponent (cs : List Char) : Option (Int × List Char) :=
  let (negative, cs) := readSign cs
  match readDigits (isDigitIn 10) cs with
  | ([], _) => none
  | (ds, rest) =>
    let n : Int := digitsIn 10 ds
    some (if negative then -n else n, rest)

/-- An exponent within bounds beyond which nothing changes. -/
def clampExponent (e : Int) : Int := max (-100000) (min 100000 e)

/-- The double with these digits; none where it lies beyond all doubles on the positive side. -/
def finite (negative : Bool) (ds : List Char) (exponent : Int) : Option Json :=
  let (num, den) :=
    let e := clampExponent exponent
    if 0 ≤ e then (digitsIn 10 ds * Nat.pow 10 e.toNat, 1)
    else (digitsIn 10 ds, Nat.pow 10 (-e).toNat)
  let x := Double.nearest num den
  if negative then some (.num (.double x.negate))
  else if x.isFinite then some (.num (.double x))
  else none

/-- Reads a number with a fraction or an exponent. -/
def readFloat (cs : List Char) : Option (Json × List Char) :=
  let (negative, cs) := readSign cs
  match cs with
  | 'i' :: 'n' :: 'f' :: rest =>
    some (.num (.double (.ofMagnitude negative Double.infinityBits)), rest)
  | 'n' :: 'a' :: 'n' :: rest =>
    some (.num (.double (.ofMagnitude negative (Double.infinityBits + 0x8000000000000))), rest)
  | cs =>
    match readWhole cs with
    | none => none
    | some (whole, '.' :: rest) =>
      match readDigits (isDigitIn 10) rest with
      | ([], _) => none
      | (fraction, rest) =>
        let scale : Int := -(fraction.length : Int)
        match rest with
        | c :: after =>
          if c = 'e' ∨ c = 'E' then
            match readExponent after with
            | none => none
            | some (e, rest) => (finite negative (whole ++ fraction) (e + scale)).map (·, rest)
          else (finite negative (whole ++ fraction) scale).map (·, rest)
        | [] => (finite negative (whole ++ fraction) scale).map (·, rest)
    | some (whole, c :: rest) =>
      if c = 'e' ∨ c = 'E' then
        match readExponent rest with
        | none => none
        | some (e, rest) => (finite negative whole e).map (·, rest)
      else none
    | some (_, []) => none

/-! ## 3. Dates and times -/

/-- Reads exactly `n` digits. -/
def readExact (n : Nat) (cs : List Char) : Option (Nat × List Char) :=
  let ds := cs.take n
  if ds.length = n && ds.all Char.isDigit then some (digitsIn 10 ds, cs.drop n) else none

/-- The text after a character. -/
def readChar (c : Char) : List Char → Option (List Char)
  | d :: rest => if d = c then some rest else none
  | [] => none

/-- The text after a date. -/
def skipDate (cs : List Char) : Option (List Char) := do
  let (y, cs) ← readExact 4 cs
  let cs ← readChar '-' cs
  let (m, cs) ← readExact 2 cs
  let cs ← readChar '-' cs
  let (d, cs) ← readExact 2 cs
  if (Timestamp.Date.mk y m d).Valid then some cs else none

/-- The text after a time of day. -/
def skipTime (cs : List Char) : Option (List Char) := do
  let (h, cs) ← readExact 2 cs
  let cs ← readChar ':' cs
  let (m, cs) ← readExact 2 cs
  let cs ← readChar ':' cs
  let (s, cs) ← readExact 2 cs
  if h < 24 ∧ m < 60 ∧ s ≤ 60 then
    match cs with
    | '.' :: rest =>
      if (rest.takeWhile Char.isDigit).isEmpty then none else some (rest.dropWhile Char.isDigit)
    | cs => some cs
  else none

/-- The text after an offset from UTC, if there is one. -/
def skipOffset (cs : List Char) : Option (List Char) :=
  match cs with
  | c :: rest =>
    if c = 'Z' ∨ c = 'z' then some rest
    else if c = '+' ∨ c = '-' then do
      let (h, rest) ← readExact 2 rest
      let rest ← readChar ':' rest
      let (m, rest) ← readExact 2 rest
      if h < 24 ∧ m < 60 then some rest else none
    else some cs
  | [] => some []

/-- The text after a date, a time or both. -/
def skipDateTime (cs : List Char) : Option (List Char) :=
  match skipDate cs with
  | none => skipTime cs
  | some afterDate =>
    match afterDate with
    | c :: rest =>
      if c = 'T' ∨ c = 't' ∨ c = ' ' then
        match skipTime rest with
        | some afterTime => skipOffset afterTime
        | none => some afterDate
      else some afterDate
    | [] => some []

/-- Reads a date, a time or both. -/
def readDateTime (cs : List Char) : Option (Json × List Char) :=
  (skipDateTime cs).map fun rest =>
    let written := String.ofList (cs.take (cs.length - rest.length))
    (.obj [("$date", .str written)], rest)

/-- Reads a date or a number. -/
def readNumeric (cs : List Char) : Option (Json × List Char) :=
  match readDateTime cs with
  | some r => some r
  | none =>
    match readFloat cs with
    | some r => some r
    | none => readInteger cs

end LabIndex.Toml
