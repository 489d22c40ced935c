import LabIndex.Timestamp.Basic
import LabIndex.Text.Alphabet

/-!
# Reading points in time

The reader is a lenient form of RFC 3339:

* month, day, hour, minute and second have one or two digits, the year up to four or else a sign
  and any number; blanks may stand before each of them and before the dashes and colons;
* date and time are separated by `T`, `t` or blanks;
* the fraction has any number of digits, of which nine count;
* the offset is `Z`, `z`, `UTC` in any case, or a sign, two digits of hours, colons or blanks or
  nothing, and two digits of minutes; the minus may be U+2212;
* blanks may surround the whole.

A local time is moved to UTC by whole minutes, so the date changes by at most one day.
-/

namespace LabIndex.Timestamp

open Text (isBlank)

/-- Why a text is no point in time. -/
inductive Fault where
  | tooShort
  | invalid
  | outOfRange
  | tooLong
  | impossible
deriving DecidableEq, Repr

/-- The words for a fault. -/
def Fault.message : Fault → String
  | tooShort => "premature end of input"
  | invalid => "input contains invalid characters"
  | outOfRange => "input is out of range"
  | tooLong => "trailing input"
  | impossible => "no possible date and time matching input"

/-- The text without the blanks at its start. -/
def skipBlanks (s : List Char) : List Char := s.dropWhile isBlank

/-- The value of decimal digits. -/
def digitsValue (ds : List Char) : Nat := ds.foldl (fun n d => n * 10 + (d.toNat - '0'.toNat)) 0

/-- Reads one to `width` digits. -/
def readDigits (width : Nat) (s : List Char) : Except Fault (Nat × List Char) :=
  match s with
  | [] => .error .tooShort
  | _ =>
    match (s.take width).takeWhile Char.isDigit with
    | [] => .error .invalid
    | ds =>
      if digitsValue ds < 0x8000000000000000 then .ok (digitsValue ds, s.drop ds.length)
      else .error .outOfRange

/-- Reads a number of one or two digits between two bounds. -/
def readTwo (low high : Nat) (s : List Char) : Except Fault (Nat × List Char) := do
  let (n, s) ← readDigits 2 (skipBlanks s)
  if low ≤ n ∧ n ≤ high then return (n, s) else throw .outOfRange

/-- Reads a year: up to four digits, or a sign and any number of them. -/
def readYear (s : List Char) : Except Fault (Int × List Char) := do
  let s := skipBlanks s
  let (y, s) ← (match s with
    | '-' :: r => do
      let (n, r) ← readDigits r.length r
      return (-(n : Int), r)
    | '+' :: r => do
      let (n, r) ← readDigits r.length r
      return ((n : Int), r)
    | s => do
      let (n, s) ← readDigits 4 s
      return ((n : Int), s) : Except Fault (Int × List Char))
  if -0x80000000 ≤ y ∧ y < 0x80000000 then return (y, s) else throw .outOfRange

/-- Reads a mark, after any blanks. -/
def readMark (c : Char) (s : List Char) : Except Fault (List Char) :=
  match skipBlanks s with
  | [] => .error .tooShort
  | d :: r => if d = c then .ok r else .error .invalid

/-- Reads what separates the date from the time. -/
def readSeparator (s : List Char) : Except Fault (List Char) :=
  match s with
  | [] => .error .tooShort
  | c :: r =>
    if c = 'T' ∨ c = 't' then .ok r
    else if isBlank c then .ok (skipBlanks r)
    else .error .invalid

/-- Reads the fraction of a second, if there is one, in nanoseconds. -/
def readFraction (s : List Char) : Except Fault (Nat × List Char) :=
  match s with
  | '.' :: r =>
    match readDigits 9 r with
    | .error e => .error e
    | .ok (n, rest) =>
      .ok (n * Nat.pow 10 (9 - (r.length - rest.length)), rest.dropWhile Char.isDigit)
  | s => .ok (0, s)

/-- Reads two digits of hours or minutes. -/
def readPair (s : List Char) : Option (Nat × Nat) :=
  match s with
  | a :: b :: _ =>
    if a.isDigit && b.isDigit then some (a.toNat - '0'.toNat, b.toNat - '0'.toNat) else none
  | _ => none

/-- A text of fewer than two bytes. -/
def isShort : List Char → Bool
  | [] => true
  | [c] => c.toNat < 128
  | _ => false

/-- Reads the digits of an offset, in minutes. -/
def readOffsetDigits (s : List Char) : Except Fault (Nat × List Char) :=
  if isShort s then .error .tooShort
  else
    match readPair s with
    | none => .error .invalid
    | some (h1, h2) =>
      let s := (s.drop 2).dropWhile fun c => c = ':' || isBlank c
      if isShort s then .error .tooShort
      else
        match readPair s with
        | none => .error .invalid
        | some (m1, m2) =>
          if 6 ≤ m1 then .error .outOfRange
          else .ok ((h1 * 10 + h2) * 60 + m1 * 10 + m2, s.drop 2)

/-- Reads an offset from UTC, in minutes. -/
def readOffset (s : List Char) : Except Fault (Int × List Char) :=
  match s with
  | [] => .error .tooShort
  | c :: r =>
    if c = 'Z' ∨ c = 'z' then .ok (0, r)
    else if (s.take 3).map Char.toLower = ['u', 't', 'c'] then .ok (0, s.drop 3)
    else if c = '+' then (readOffsetDigits r).map fun (n, r) => (n, r)
    else if c = '-' ∨ c = '\u2212' then (readOffsetDigits r).map fun (n, r) => (-(n : Int), r)
    else .error .invalid

/-- The first and the last year of the calendar in use. -/
def yearRange : Int × Int := (-262143, 262142)

/-- A year within the calendar in use. -/
def yearInRange (y : Int) : Bool := yearRange.1 ≤ y && y ≤ yearRange.2

/-- Moves a local time to UTC, given its offset in minutes. -/
def toUtc (t : Timestamp) (offset : Int) : Timestamp :=
  let minutes : Int := t.hour * 60 + t.minute - offset
  let date :=
    if minutes < 0 then t.date.previous
    else if 1440 ≤ minutes then t.date.next
    else t.date
  let m := (minutes % 1440).toNat
  { t with date := date, hour := m / 60, minute := m % 60 }

/-- The point in time that a text names. -/
def parse (text : String) : Except Fault Timestamp := do
  let (year, s) ← readYear text.toList
  let s ← readMark '-' s
  let (month, s) ← readTwo 1 12 s
  let s ← readMark '-' s
  let (day, s) ← readTwo 1 31 s
  let s ← readSeparator s
  let (hour, s) ← readTwo 0 23 s
  let s ← readMark ':' s
  let (minute, s) ← readTwo 0 59 s
  let s ← readMark ':' s
  let (second, s) ← readTwo 0 60 s
  let (nano, s) ← readFraction s
  let (offset, s) ← readOffset (skipBlanks s)
  if !(skipBlanks s).isEmpty then throw .tooLong
  let local_ : Timestamp := ⟨⟨year, month, day⟩, hour, minute, second, nano⟩
  if !(yearInRange year && local_.date.Valid && offset.natAbs < 1440) then throw .outOfRange
  let t := local_.toUtc offset
  if yearInRange t.date.year then return t else throw .impossible

end LabIndex.Timestamp
