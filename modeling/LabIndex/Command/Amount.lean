import LabIndex.Decimal.Notation

/-!
# Amounts for people

Sizes in bytes and times in milliseconds, as a person reads them: in the largest unit that makes
at least one. The quotient is a double and is rounded to its places from its exact value.
-/

namespace LabIndex.Command

open Decimal (Double)

/-- A size in one unit with one place. -/
def inUnit (bytes unit : Nat) (name : String) : String :=
  ((Double.ofNat bytes).dividedBy (Double.ofNat unit)).fixed 1 ++ " " ++ name

/-- A size. -/
def sizeText (bytes : Nat) : String :=
  if 1073741824 ≤ bytes then inUnit bytes 1073741824 "GB"
  else if 1048576 ≤ bytes then inUnit bytes 1048576 "MB"
  else if 1024 ≤ bytes then inUnit bytes 1024 "KB"
  else toString bytes ++ " B"

/-- Milliseconds in seconds with a number of places. -/
def secondsText (places ms : Nat) : String :=
  ((Double.ofNat ms).dividedBy (Double.ofNat 1000)).fixed places ++ "s"

/-- A time. -/
def durationText (ms : Nat) : String :=
  if 60000 ≤ ms then toString (ms / 60000) ++ "m " ++ secondsText 1 (ms % 60000)
  else if 1000 ≤ ms then secondsText 2 ms
  else toString ms ++ "ms"

end LabIndex.Command
