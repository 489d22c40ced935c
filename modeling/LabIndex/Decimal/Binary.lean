/-!
# Double-precision numbers

A double is kept as its 64 bits, so that two doubles are equal exactly when they are the same
number with the same sign of zero. Finite magnitudes are whole multiples of 2⁻¹⁰⁷⁴; this file
reads a double as such a multiple and rounds an arbitrary fraction to the nearest double, ties to
the even one. All arithmetic is on natural numbers.

* `Double.multiple`: the magnitude as a multiple of 2⁻¹⁰⁷⁴;
* `Double.nearest`: the double closest to a fraction;
* `Double.times`, `Double.dividedBy`: product and quotient of magnitudes, each rounded once.
-/

namespace LabIndex.Decimal

/-- Divides with rounding to the nearest whole number, ties to the even one. -/
def divNearest (num den : Nat) : Nat :=
  let q := num / den
  let r := num % den
  if 2 * r < den then q
  else if den < 2 * r then q + 1
  else if q % 2 = 0 then q else q + 1

/-- A double-precision number, by its bits. -/
structure Double where
  bits : UInt64
deriving DecidableEq, Repr, Inhabited

namespace Double

/-- The smallest positive double is 1 / `grid`. -/
def grid : Nat := Nat.pow 2 1074

/-- Negative numbers, the negative zero among them. -/
def isNegative (x : Double) : Bool := 0x8000000000000000 ≤ x.bits.toNat

/-- The exponent field, 0 … 2047. -/
def exponentField (x : Double) : Nat := x.bits.toNat / 0x10000000000000 % 2048

/-- The fraction field, 52 bits. -/
def fractionField (x : Double) : Nat := x.bits.toNat % 0x10000000000000

/-- Neither infinite nor a NaN. -/
def isFinite (x : Double) : Bool := x.exponentField != 2047

/-- The significand with its leading one: the magnitude is this times 2 to the `spacing`, over
    `grid`. -/
def significand (x : Double) : Nat :=
  if x.exponentField = 0 then x.fractionField else 0x10000000000000 + x.fractionField

/-- The distance to the next double of the same size is 2 to this, over `grid`. -/
def spacing (x : Double) : Nat := x.exponentField - 1

/-- The magnitude as a multiple of the smallest positive double. -/
def multiple (x : Double) : Nat := x.significand * Nat.pow 2 x.spacing

/-- The bits of the positive infinity. -/
def infinityBits : Nat := 0x7FF0000000000000

/-- The double with this sign and these magnitude bits. -/
def ofMagnitude (negative : Bool) (magnitude : Nat) : Double :=
  ⟨UInt64.ofNat (magnitude + if negative then 0x8000000000000000 else 0)⟩

/-- The magnitude bits of the double nearest to `num / den` times the smallest positive double. The
    fraction is cut to 53 significant bits; a carry into the exponent field is the right next
    double. -/
def nearestBits (num den : Nat) : Nat :=
  let k := Nat.log2 (num / den) - 52
  min (k * 0x10000000000000 + divNearest num (den * Nat.pow 2 k)) infinityBits

/-- The non-negative double nearest to `num / den`; infinite when that is beyond all of them. -/
def nearest (num den : Nat) : Double :=
  .ofMagnitude false (nearestBits (num * grid) den)

/-- The double nearest to a whole number. -/
def ofNat (n : Nat) : Double := nearest n 1

/-- The product of two finite magnitudes, rounded. -/
def times (x y : Double) : Double :=
  .ofMagnitude false (nearestBits (x.multiple * y.multiple) grid)

/-- The quotient of two finite magnitudes, rounded. -/
def dividedBy (x y : Double) : Double :=
  .ofMagnitude false (nearestBits (x.multiple * grid) y.multiple)

/-- The same magnitude with the other sign. -/
def negate (x : Double) : Double :=
  .ofMagnitude (!x.isNegative) (x.bits.toNat % 0x8000000000000000)

/-- Either zero. -/
def isZero (x : Double) : Bool := x.bits.toNat % 0x8000000000000000 == 0

end Double

end LabIndex.Decimal
