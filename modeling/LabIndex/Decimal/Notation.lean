import LabIndex.Decimal.Shortest

/-!
# Decimal notation

How digits become text: positionally or with an exponent, by a layout that says from which to which
exponent numbers are written positionally; and with a fixed number of places.
-/

namespace LabIndex.Decimal

/-! ## 1. Shortest digits -/

/-- The decisions of a number format. Numbers whose leading digit stands between `10^leastLead`
    and `10^mostLead` are written positionally. -/
structure Layout where
  /-- The least exponent of the leading digit for positional notation. -/
  leastLead : Int
  /-- The greatest one. -/
  mostLead : Int
  /-- A whole number in positional notation keeps this fraction. -/
  wholeFraction : String
  /-- The mark before the exponent. -/
  exponentMark : String
  /-- The sign of an exponent that is not negative. -/
  exponentPlus : String

/-- Digits with zeros in front up to a width. -/
def padded (width n : Nat) : String :=
  let s := Nat.repr n
  String.ofList (List.replicate (width - s.length) '0') ++ s

/-- The text of a decimal magnitude. -/
def Layout.write (l : Layout) (x : Scientific) : String :=
  let digits := Nat.repr x.digits
  let count := digits.length
  let lead := x.exponent + count - 1
  if l.leastLead ≤ lead ∧ lead ≤ l.mostLead then
    if 0 ≤ x.exponent then
      digits ++ String.ofList (List.replicate x.exponent.toNat '0') ++ l.wholeFraction
    else if 0 ≤ lead then
      let whole := (lead + 1).toNat
      String.ofList (digits.toList.take whole) ++ "." ++ String.ofList (digits.toList.drop whole)
    else
      "0." ++ String.ofList (List.replicate (-lead - 1).toNat '0') ++ digits
  else
    let tail := if count = 1 then "" else "." ++ String.ofList (digits.toList.drop 1)
    let sign := if lead < 0 then "-" else l.exponentPlus
    String.ofList (digits.toList.take 1) ++ tail ++ l.exponentMark ++ sign ++ Nat.repr lead.natAbs

/-- The text of a finite double: its shortest digits in the layout, the sign of zero kept. -/
def Layout.writeDouble (l : Layout) (x : Double) : String :=
  let sign := if x.isNegative then "-" else ""
  if x.isZero then sign ++ "0" ++ l.wholeFraction else sign ++ l.write x.shortest

/-- The double nearest to a decimal magnitude. -/
def Scientific.toDouble (s : Scientific) : Double :=
  let (num, den) := powerOfTen s.exponent
  .nearest (s.digits * num) den

/-- The double that is written as a non-negative single-precision number is: with the digits that
    are enough to read that back. -/
def Double.ofSingle (x : Double) : Double := if x.isZero then x else x.shortestSingle.toDouble

/-! ## 2. Fixed places -/

/-- A fraction with a fixed number of places, rounded to the nearest, ties to the even digit. -/
def fixedPlaces (places num den : Nat) : String :=
  let n := divNearest (num * Nat.pow 10 places) den
  let whole := Nat.repr (n / Nat.pow 10 places)
  if places = 0 then whole else whole ++ "." ++ padded places (n % Nat.pow 10 places)

/-- The magnitude of a double with a fixed number of places; the value rounded is the exact one. -/
def Double.fixed (places : Nat) (x : Double) : String :=
  fixedPlaces places x.multiple Double.grid

end LabIndex.Decimal
