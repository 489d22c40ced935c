import LabIndex.Decimal.Binary

/-!
# Shortest decimal digits

A finite number is written with the fewest significant digits that read back as the same number;
among those the nearest to it, and of two equally near the even one. The reals that read back as a
number form an interval around it, whose ends count when the significand is even. For one digit,
two digits, … the two neighbours of the number on that decimal grid are tested against the
interval, and the first grid with a hit wins: if any point of a grid lies in the interval, so does
one of the two neighbours.

Everything is counted in quarters of the smallest positive double, so all ends are whole numbers.

* `Double.shortest`: the digits of a double;
* `Double.shortestSingle`: the digits of a double that is a single-precision number, when they are
  read back in single precision.
-/

namespace LabIndex.Decimal

/-- A decimal magnitude: `digits` times 10 to the `exponent`. -/
structure Scientific where
  digits : Nat
  exponent : Int
deriving DecidableEq, Repr

/-- The number of decimal digits. -/
def digitCount (n : Nat) : Nat := (Nat.toDigits 10 n).length

/-- 10 to a power, as a fraction. -/
def powerOfTen (e : Int) : Nat × Nat :=
  if 0 ≤ e then (Nat.pow 10 e.toNat, 1) else (1, Nat.pow 10 (-e).toNat)

/-- The exponent of the leading digit of `num / den`, for a fraction below one: the first power
    of ten that lifts it to one or more, tried in turn. -/
def leadBelowOne (num den : Nat) : Nat → Int → Int
  | 0, e => e
  | fuel + 1, e => if den ≤ num * 10 then e - 1 else leadBelowOne (num * 10) den fuel (e - 1)

/-- The exponent of the leading decimal digit of a positive fraction. -/
def leadExponent (num den : Nat) : Int :=
  if den ≤ num then (digitCount (num / den) : Int) - 1
  else leadBelowOne num den 400 0

/-- Takes the zeros off the end of the digits. -/
def stripZeros (digits : Nat) (exponent : Int) : Nat → Scientific
  | 0 => ⟨digits, exponent⟩
  | fuel + 1 =>
    if digits % 10 = 0 then stripZeros (digits / 10) (exponent + 1) fuel else ⟨digits, exponent⟩

/-- A magnitude and the interval of the reals that read back as it, in quarters of the smallest
    positive double. -/
structure Span where
  value : Nat
  low : Nat
  high : Nat
  /-- The ends of the interval belong to it. -/
  closed : Bool
deriving DecidableEq, Repr

namespace Span

/-- The interval around a multiple of the smallest positive double, where the numbers of that size
    are 2 to the `spacing` apart. Below a power of two they lie twice as close. -/
def around (multiple spacing : Nat) (isPower closed : Bool) : Span where
  value := 4 * multiple
  low := 4 * multiple - (if isPower then Nat.pow 2 spacing else 2 * Nat.pow 2 spacing)
  high := 4 * multiple + 2 * Nat.pow 2 spacing
  closed := closed

/-- The decimal `d · 10^e` reads back. -/
def readsBack (x : Span) (d : Nat) (e : Int) : Bool :=
  let (num, den) := powerOfTen e
  let value := d * num * (4 * Double.grid)
  let lo := x.low * den
  let hi := x.high * den
  if x.closed then lo ≤ value && value ≤ hi else lo < value && value < hi

/-- The neighbours of the value on the grid of multiples of `10^e` that read back: the nearer one
    first choice, the even one at a tie. -/
def onGrid (x : Span) (e : Int) : Option Nat :=
  let (num, den) := powerOfTen e
  let unit := num * (4 * Double.grid)
  let value := x.value * den
  let d := value / unit
  let twiceRest := 2 * (value % unit)
  match x.readsBack d e && d != 0, x.readsBack (d + 1) e with
  | true, false => some d
  | false, true => some (d + 1)
  | true, true =>
    if twiceRest < unit then some d
    else if unit < twiceRest then some (d + 1)
    else if d % 2 = 0 then some d else some (d + 1)
  | false, false => none

/-- Tries grids with more and more digits, the coarsest one of multiples of `10^e`. -/
def shortestFrom (x : Span) : Nat → Int → Scientific
  | 0, e => ⟨x.value, e⟩
  | fuel + 1, e =>
    match x.onGrid e with
    | some d => stripZeros d e 20
    | none => shortestFrom x fuel (e - 1)

/-- The shortest digits of a magnitude that is not zero. -/
def shortest (x : Span) : Scientific :=
  shortestFrom x 18 (leadExponent x.value (4 * Double.grid))

end Span

namespace Double

/-- The reals that read back as a double. -/
def span (x : Double) : Span :=
  .around x.multiple x.spacing (x.fractionField = 0 ∧ 1 < x.exponentField)
    (x.significand % 2 = 0)

/-- The shortest digits of a finite double that is not zero. -/
def shortest (x : Double) : Scientific := x.span.shortest

/-- The smallest positive single-precision number is 2 to this, over `grid`. -/
def singleGrid : Nat := 1074 - 149

/-- The reals that read back in single precision as a double of that precision. -/
def singleSpan (x : Double) : Span :=
  let spacing := max (x.spacing + 29) singleGrid
  .around x.multiple spacing (x.fractionField = 0 ∧ singleGrid < spacing)
    (x.multiple / Nat.pow 2 spacing % 2 = 0)

/-- The shortest digits of a double that is a single-precision number and not zero, when they are
    read back in single precision. -/
def shortestSingle (x : Double) : Scientific := x.singleSpan.shortest

end Double

end LabIndex.Decimal
