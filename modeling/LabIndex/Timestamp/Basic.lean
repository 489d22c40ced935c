import LabIndex.Timestamp.Calendar
import LabIndex.Decimal.Notation

/-!
# Points in time

A point in time is a date and a time of day in UTC, to the nanosecond. The second may be 60: a
leap second stays one. It is written as RFC 3339 has it, with `Z` for UTC, with a fraction of
three, six or nine digits (the fewest that lose nothing, none at all for a whole second), and
with a sign before a year that needs other than four digits.
-/

namespace LabIndex

/-- A point in time, in UTC. -/
structure Timestamp where
  date : Timestamp.Date
  hour : Nat
  minute : Nat
  second : Nat
  nano : Nat
deriving DecidableEq, Repr, Inhabited

namespace Timestamp

open Decimal (padded)

/-- The date and the clock show a possible time; the second 60 is one. -/
def Valid (t : Timestamp) : Prop :=
  t.date.Valid ∧ t.hour < 24 ∧ t.minute < 60 ∧ t.second ≤ 60 ∧ t.nano < 1000000000

instance (t : Timestamp) : Decidable t.Valid := by unfold Valid; infer_instance

/-- The nanoseconds since the first day of the year zero; a leap second counts as the one after
    it. -/
def nanoseconds (t : Timestamp) : Int :=
  (((t.date.number * 24 + t.hour) * 60 + t.minute) * 60 + t.second) * 1000000000 + t.nano

/-- The text of a year: four digits, or a sign and at least four. -/
def yearText (y : Int) : String :=
  if 0 ≤ y ∧ y ≤ 9999 then padded 4 y.toNat
  else (if y < 0 then "-" else "+") ++ padded 4 y.natAbs

/-- The text of the fraction of a second, with its point. -/
def fractionText (nano : Nat) : String :=
  if nano = 0 then ""
  else if nano % 1000000 = 0 then "." ++ padded 3 (nano / 1000000)
  else if nano % 1000 = 0 then "." ++ padded 6 (nano / 1000)
  else "." ++ padded 9 nano

/-- The written form. -/
def text (t : Timestamp) : String :=
  yearText t.date.year ++ "-" ++ padded 2 t.date.month ++ "-" ++ padded 2 t.date.day ++ "T" ++
    padded 2 t.hour ++ ":" ++ padded 2 t.minute ++ ":" ++ padded 2 t.second ++
    fractionText t.nano ++ "Z"

end Timestamp

end LabIndex
