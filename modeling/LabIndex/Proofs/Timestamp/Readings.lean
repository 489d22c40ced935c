import LabIndex.Proofs.Timestamp.Spelling

/-!
# Readings of a text

A text that is put together from the parts of a point in time spells a clock and its offset from
UTC. It is accepted where that clock is possible, and the point in time is the clock moved to UTC.

* `Reading.Spells`: the grammar of a whole text;
* `Reading.read_eq`: the reader gives the one reading of a text, where its year has 32 bits;
* `parse_eq_ok_iff`: which texts are accepted, and as what;
* `denotes_of_parse`: what is accepted denotes its point in time.
-/

namespace LabIndex.Timestamp

open Text (isBlank)

/-! ## 1. Readings -/

/-- What a text spells: a clock and its offset from UTC, in minutes. -/
structure Reading where
  clock : Timestamp
  offset : Int
deriving DecidableEq, Repr

namespace Reading

/-- The instant that the clock shows, in nanoseconds of UTC. -/
def nanoseconds (r : Reading) : Int := r.clock.nanoseconds - r.offset * 60 * 1000000000

/-- A date: its year, month and day with dashes between them. -/
inductive DateText : List Char → Date → Prop
  | mk {y dash₁ m dash₂ d : List Char} {date : Date} (year : Year y date.year)
      (first : Mark '-' dash₁) (month : TwoDigits 1 12 m date.month) (second : Mark '-' dash₂)
      (day : TwoDigits 1 31 d date.day) : DateText (y ++ (dash₁ ++ (m ++ (dash₂ ++ d)))) date

/-- A time of day: its hour, minute and second with colons between them, and the fraction. -/
inductive ClockText : List Char → Timestamp → Prop
  | mk {h colon₁ m colon₂ s f : List Char} {t : Timestamp} (hour : TwoDigits 0 23 h t.hour)
      (first : Mark ':' colon₁) (minute : TwoDigits 0 59 m t.minute) (second : Mark ':' colon₂)
      (seconds : TwoDigits 0 60 s t.second) (fraction : Fraction f t.nano) :
      ClockText (h ++ (colon₁ ++ (m ++ (colon₂ ++ (s ++ f))))) t

/-- A point in time: a date and a time of day, and then an offset. Blanks may stand before the
    offset and at the end. -/
inductive Spells : List Char → Reading → Prop
  | mk {d sep c gap o tail : List Char} {r : Reading} (date : DateText d r.clock.date)
      (separator : Separator sep) (time : ClockText c r.clock) (between : Blanks gap)
      (shift : Offset o r.offset) (behind : Blanks tail) :
      Spells (d ++ (sep ++ (c ++ (gap ++ (o ++ tail))))) r

/-- Reads a date. -/
def readDate (s : List Char) : Except Fault (Date × List Char) := do
  let (year, s) ← readYear s
  let s ← readMark '-' s
  let (month, s) ← readTwo 1 12 s
  let s ← readMark '-' s
  let (day, s) ← readTwo 1 31 s
  return (⟨year, month, day⟩, s)

/-- Reads a time of day. -/
def readClock (date : Date) (s : List Char) : Except Fault (Timestamp × List Char) := do
  let (hour, s) ← readTwo 0 23 s
  let s ← readMark ':' s
  let (minute, s) ← readTwo 0 59 s
  let s ← readMark ':' s
  let (second, s) ← readTwo 0 60 s
  let (nano, s) ← readFraction s
  return (⟨date, hour, minute, second, nano⟩, s)

/-- The clock and the offset of a text, as the reader finds them. -/
def read (text : String) : Except Fault Reading := do
  let (date, s) ← readDate text.toList
  let s ← readSeparator s
  let (clock, s) ← readClock date s
  let (offset, s) ← readOffset (skipBlanks s)
  if !(skipBlanks s).isEmpty then throw .tooLong
  return ⟨clock, offset⟩

/-- A day that exists, a year of the calendar in use, and an offset of less than a day. -/
def Possible (r : Reading) : Prop :=
  yearInRange r.clock.date.year = true ∧ r.clock.date.Valid ∧ r.offset.natAbs < 1440

instance (r : Reading) : Decidable r.Possible := by unfold Possible; infer_instance

/-- The point in time of a reading. -/
def settle (r : Reading) : Except Fault Timestamp :=
  if r.Possible then
    if yearInRange (r.clock.toUtc r.offset).date.year then .ok (r.clock.toUtc r.offset)
    else .error .impossible
  else .error .outOfRange

end Reading

/-- A text is read first and judged then. -/
theorem parse_eq (text : String) : parse text = Reading.read text >>= Reading.settle := by
  simp only [parse, Reading.read, Reading.readDate, Reading.readClock, bind_assoc, pure_bind]
  repeat refine bind_congr fun _ => ?_
  rename_i year _ month _ day _ hour _ minute _ second nano offset
  have hpossible : (yearInRange year.1 && decide (Date.Valid ⟨year.1, month.1, day.1⟩) &&
      decide (offset.1.natAbs < 1440)) = true ↔
      Reading.Possible ⟨⟨⟨year.1, month.1, day.1⟩, hour.1, minute.1, second.1, nano.1⟩,
        offset.1⟩ := by
    simp [Reading.Possible, and_assoc]
  split
  · rfl
  · rw [pure_bind, Reading.settle]
    split
    · rename_i h
      rw [Bool.not_eq_true', ← Bool.not_eq_true, hpossible] at h
      rw [if_neg h]
      rfl
    · rename_i h
      rw [Bool.not_eq_true', Bool.not_eq_false, hpossible] at h
      rw [if_pos h]
      rfl

/-! ## 2. What follows a part -/

section Following

variable {p s : List Char} {c : Char} {n : Nat} {o : Int}

theorem Mark.stops (hc : c.isDigit = false) (hp : Mark c p) (s : List Char) :
    Stops Char.isDigit (p ++ s) := by
  obtain ⟨hblanks⟩ := hp
  rw [List.append_assoc]
  exact stops_append hblanks.not_isDigit (stops_cons.mpr hc)

theorem Separator.stops (hp : Separator p) (s : List Char) : Stops Char.isDigit (p ++ s) := by
  cases hp with
  | letter hc => exact stops_cons.mpr (by rcases hc with rfl | rfl <;> rfl)
  | blanks hc _ => exact stops_cons.mpr (not_isDigit_of_isBlank hc)

theorem Fraction.stops (hp : Fraction p n) (hs : Stops Char.isDigit s) :
    Stops Char.isDigit (p ++ s) := by
  cases hp with
  | whole => exact hs
  | digits _ => exact stops_cons.mpr rfl

/-- A fraction is less than a second. -/
theorem Fraction.lt (hp : Fraction p n) : n < 1000000000 := by
  cases hp with
  | whole => omega
  | @digits ds m hdigits =>
      rw [Nat.div_lt_iff_lt_mul (Nat.pow_pos (by omega)), Nat.mul_comm]
      exact Nat.mul_lt_mul_of_pos_left hdigits.lt (by omega)

theorem eq_of_toLower_eq {c : Char} (h : c.toLower = 'u') : c = 'U' ∨ c = 'u' := by
  unfold Char.toLower at h
  split at h
  · have hval : c.val + ('a'.val - 'A'.val) = 'U'.val + ('a'.val - 'A'.val) := congrArg Char.val h
    exact .inl (Char.ext ((UInt32.add_left_inj _).mp hval))
  · exact .inr h

/-- An offset starts with one of a few characters. -/
theorem Offset.exists_cons (hp : Offset p o) :
    ∃ c r, p = c :: r ∧ c ∈ ['-', '+', 'Z', 'z', 'U', 'u', '\u2212'] := by
  cases hp with
  | @zulu c hc => exact ⟨c, [], rfl, by rcases hc with rfl | rfl <;> simp⟩
  | utc hname =>
      cases p with
      | nil => cases hname
      | cons c r =>
          have hc := eq_of_toLower_eq (List.cons.inj hname).1
          exact ⟨c, r, rfl, by rcases hc with rfl | rfl <;> simp⟩
  | east _ => exact ⟨_, _, rfl, by simp⟩
  | west hc _ => exact ⟨_, _, rfl, by rcases hc with rfl | rfl <;> simp⟩

/-- Blanks and an offset are no part of a fraction, and the offset is found behind the blanks. -/
theorem Offset.behind_blanks {gap : List Char} (hgap : Blanks gap) (hp : Offset p o)
    (s : List Char) : Stops Char.isDigit (gap ++ (p ++ s)) ∧ Stops (· == '.') (gap ++ (p ++ s)) ∧
      skipBlanks (gap ++ (p ++ s)) = p ++ s := by
  obtain ⟨c, r, rfl, hc⟩ := hp.exists_cons
  simp only [List.mem_cons, List.not_mem_nil, or_false] at hc
  refine ⟨stops_append hgap.not_isDigit (stops_cons.mpr ?_),
    stops_append (fun d hd => ?_) (stops_cons.mpr ?_), ?_⟩
  · rcases hc with rfl | rfl | rfl | rfl | rfl | rfl | rfl <;> rfl
  · have hd := hgap d hd
    rw [beq_eq_false_iff_ne]
    rintro rfl
    simp [not_isBlank_of_mem] at hd
  · rcases hc with rfl | rfl | rfl | rfl | rfl | rfl | rfl <;> rfl
  · rw [skipBlanks_append hgap]
    refine Stops.dropWhile_eq (stops_cons.mpr (not_isBlank_of_mem ?_))
    rcases hc with rfl | rfl | rfl | rfl | rfl | rfl | rfl <;> simp

end Following

/-! ## 3. Whole texts -/

namespace Reading

variable {text : String} {s rest p : List Char} {d : Date} {t : Timestamp} {r r' : Reading}

theorem readDate_sound (h : readDate s = .ok (d, rest)) :
    (∃ p, s = p ++ rest ∧ DateText p d) ∧ WithinYears d.year := by
  simp only [readDate, bind_eq_ok_iff] at h
  obtain ⟨⟨year, s₁⟩, h₁, s₂, h₂, ⟨month, s₃⟩, h₃, s₄, h₄, ⟨day, s₅⟩, h₅, h⟩ := h
  cases h
  obtain ⟨⟨y, hy, hyear⟩, hwithin⟩ := readYear_sound h₁
  obtain ⟨dash₁, hdash₁, hfirst⟩ := readMark_sound h₂
  obtain ⟨m, hm, hmonth⟩ := readTwo_sound h₃
  obtain ⟨dash₂, hdash₂, hsecond⟩ := readMark_sound h₄
  obtain ⟨d, hd, hday⟩ := readTwo_sound h₅
  refine ⟨⟨y ++ (dash₁ ++ (m ++ (dash₂ ++ d))), ?_, .mk hyear hfirst hmonth hsecond hday⟩, hwithin⟩
  dsimp only at hdash₁ hdash₂
  rw [hy, hdash₁, hm, hdash₂, hd]
  simp only [List.append_assoc]

theorem readDate_append (hp : DateText p d) (hrest : Stops Char.isDigit rest) :
    readDate (p ++ rest) =
      if WithinYears d.year then .ok (d, rest) else .error .outOfRange := by
  obtain ⟨hyear, hfirst, hmonth, hsecond, hday⟩ := hp
  have hdash : isBlank '-' = false := not_isBlank_of_mem (by simp)
  simp only [readDate, List.append_assoc, readYear_append hyear (hfirst.stops rfl _)]
  split
  · simp only [bind, Except.bind, readMark_append hdash hfirst,
      readTwo_append hmonth (hsecond.stops rfl _), readMark_append hdash hsecond,
      readTwo_append hday hrest]
    rfl
  · rfl

theorem readClock_sound (h : readClock d s = .ok (t, rest)) :
    ∃ p, s = p ++ rest ∧ ClockText p t ∧ t.date = d := by
  simp only [readClock, bind_eq_ok_iff] at h
  obtain ⟨⟨hour, s₁⟩, h₁, s₂, h₂, ⟨minute, s₃⟩, h₃, s₄, h₄, ⟨second, s₅⟩, h₅, ⟨nano, s₆⟩, h₆, h⟩ :=
    h
  cases h
  obtain ⟨h, hh, hhour⟩ := readTwo_sound h₁
  obtain ⟨colon₁, hcolon₁, hfirst⟩ := readMark_sound h₂
  obtain ⟨m, hm, hminute⟩ := readTwo_sound h₃
  obtain ⟨colon₂, hcolon₂, hsecond⟩ := readMark_sound h₄
  obtain ⟨s, hs, hseconds⟩ := readTwo_sound h₅
  obtain ⟨f, hf, hfraction⟩ := readFraction_sound h₆
  refine ⟨h ++ (colon₁ ++ (m ++ (colon₂ ++ (s ++ f)))), ?_,
    .mk hhour hfirst hminute hsecond hseconds hfraction, rfl⟩
  dsimp only at hcolon₁ hcolon₂ hf
  rw [hh, hcolon₁, hm, hcolon₂, hs, hf]
  simp only [List.append_assoc]

theorem readClock_append (hp : ClockText p t) (hdigit : Stops Char.isDigit rest)
    (hpoint : Stops (· == '.') rest) : readClock t.date (p ++ rest) = .ok (t, rest) := by
  obtain ⟨hhour, hfirst, hminute, hsecond, hseconds, hfraction⟩ := hp
  have hcolon : isBlank ':' = false := not_isBlank_of_mem (by simp)
  simp only [readClock, List.append_assoc, bind, Except.bind,
    readTwo_append hhour (hfirst.stops rfl _), readMark_append hcolon hfirst,
    readTwo_append hminute (hsecond.stops rfl _), readMark_append hcolon hsecond,
    readTwo_append hseconds (hfraction.stops hdigit), readFraction_append hfraction hdigit hpoint]
  rfl

/-- Blanks before a time of day do not count. -/
theorem readClock_congr (h : skipBlanks s = skipBlanks p) : readClock d s = readClock d p := by
  rw [readClock, readClock, readTwo, readTwo, h]

/-- What the reader finds is spelled. -/
theorem spells_of_read (h : read text = .ok r) :
    Spells text.toList r ∧ WithinYears r.clock.date.year := by
  simp only [read, bind_eq_ok_iff] at h
  obtain ⟨⟨date, s₁⟩, h₁, s₂, h₂, ⟨clock, s₃⟩, h₃, ⟨offset, s₄⟩, h₄, h⟩ := h
  dsimp only at h₂ h₃ h₄ h
  split at h
  · cases h
  rename_i htail
  cases h
  obtain ⟨⟨d, hd, hdate⟩, hwithin⟩ := readDate_sound h₁
  obtain ⟨sep, hsep, hseparator⟩ := readSeparator_sound h₂
  obtain ⟨c, hc, htime, rfl⟩ := readClock_sound h₃
  obtain ⟨gap, hgap, hbetween⟩ := exists_blanks s₃
  obtain ⟨o, ho, hshift⟩ := readOffset_sound h₄
  obtain ⟨tail, hend, hbehind⟩ := exists_blanks s₄
  have hnil : skipBlanks s₄ = [] := by simpa using htail
  rw [hnil, List.append_nil] at hend
  have htext : text.toList = d ++ (sep ++ (c ++ (gap ++ (o ++ tail)))) := by
    rw [hd, hsep, hc, hgap, ho, hend]
  exact ⟨htext ▸ .mk hdate hseparator htime hbetween hshift hbehind, hwithin⟩

/-- **A text that is spelled is read so**, if its year has 32 bits. -/
theorem read_eq (h : Spells text.toList r) :
    read text = if WithinYears r.clock.date.year then .ok r else .error .outOfRange := by
  generalize htext : text.toList = l at h
  obtain ⟨hdate, hseparator, htime, hbetween, hshift, hbehind⟩ := h
  rename_i d sep c gap o tail
  obtain ⟨hdigit, hpoint, hskip⟩ := hshift.behind_blanks hbetween tail
  obtain ⟨s, hs, hblanks⟩ := readSeparator_append hseparator (c ++ (gap ++ (o ++ tail)))
  have htail : skipBlanks tail = [] := by
    rw [← List.append_nil tail, skipBlanks_append hbehind]
    rfl
  rw [read, htext, readDate_append hdate (hseparator.stops _)]
  split
  · simp only [bind, Except.bind, hs, readClock_congr hblanks, readClock_append htime hdigit hpoint,
      hskip, readOffset_append hshift, htail]
    rfl
  · rfl

/-- A text that is read has no other reading. -/
theorem eq_of_spells (h : read text = .ok r) (h' : Spells text.toList r') : r' = r := by
  rw [read_eq h'] at h
  split at h
  · exact Except.ok.inj h
  · cases h

/-- A possible reading shows a possible time. -/
theorem Spells.valid (h : Spells s r) (hd : r.clock.date.Valid) : r.clock.Valid := by
  obtain ⟨-, -, htime, -, -, -⟩ := h
  obtain ⟨hhour, -, hminute, -, hsecond, hfraction⟩ := htime
  obtain ⟨-, -, -, -, hhour⟩ := hhour
  obtain ⟨-, -, -, -, hminute⟩ := hminute
  obtain ⟨-, -, -, -, hsecond⟩ := hsecond
  exact ⟨hd, by omega, by omega, hsecond, hfraction.lt⟩

theorem settle_eq_ok_iff : settle r = .ok t ↔
    r.Possible ∧ r.clock.toUtc r.offset = t ∧ yearInRange t.date.year = true := by
  rw [settle]
  constructor
  · intro h
    split at h
    · rename_i hp
      split at h
      · rename_i hy
        cases h
        exact ⟨hp, rfl, hy⟩
      · cases h
    · cases h
  · rintro ⟨hp, rfl, hy⟩
    rw [if_pos hp, if_pos hy]

end Reading

/-! ## 4. Accepted texts -/

variable {text : String} {t : Timestamp}

theorem yearInRange_iff {y : Int} : yearInRange y = true ↔ -262143 ≤ y ∧ y ≤ 262142 := by
  rw [yearInRange, Bool.and_eq_true, decide_eq_true_eq, decide_eq_true_eq, yearRange]

/-- **The accepted texts** are those with a possible reading that stays within the calendar in use
    when it is moved to UTC, and that is the point in time. -/
theorem parse_eq_ok_iff : parse text = .ok t ↔ ∃ r : Reading, r.Spells text.toList ∧
    r.Possible ∧ r.clock.toUtc r.offset = t ∧ yearInRange t.date.year = true := by
  rw [parse_eq, bind_eq_ok_iff]
  constructor
  · rintro ⟨r, hr, h⟩
    exact ⟨r, (Reading.spells_of_read hr).1, Reading.settle_eq_ok_iff.mp h⟩
  · rintro ⟨r, hr, h⟩
    have hwithin : WithinYears r.clock.date.year := by
      have hyear := yearInRange_iff.mp h.1.1
      constructor <;> omega
    refine ⟨r, ?_, Reading.settle_eq_ok_iff.mpr h⟩
    rw [Reading.read_eq hr, if_pos hwithin]

/-- What is accepted is a possible time. -/
theorem valid_of_parse (h : parse text = .ok t) : t.Valid ∧ yearInRange t.date.year = true := by
  obtain ⟨r, hr, hp, rfl, hy⟩ := parse_eq_ok_iff.mp h
  exact ⟨valid_toUtc (hr.valid hp.2.1) _, hy⟩

/-- A text denotes an instant, in nanoseconds of UTC, with the second that the clock shows: 60 in a
    leap second. It can be read, and only so. -/
structure Denotes (text : String) (nanoseconds : Int) (second : Nat) : Prop where
  readable : ∃ r : Reading, r.Spells text.toList
  instant : ∀ r : Reading, r.Spells text.toList →
    r.nanoseconds = nanoseconds ∧ r.clock.second = second

/-- **What is accepted denotes its point in time.** -/
theorem denotes_of_parse (h : parse text = .ok t) : Denotes text t.nanoseconds t.second := by
  rw [parse_eq, bind_eq_ok_iff] at h
  obtain ⟨r, hread, h⟩ := h
  obtain ⟨hp, rfl, -⟩ := Reading.settle_eq_ok_iff.mp h
  have hr := (Reading.spells_of_read hread).1
  refine ⟨⟨r, hr⟩, fun r' hr' => ?_⟩
  rw [Reading.eq_of_spells hread hr', nanoseconds_toUtc (hr.valid hp.2.1) hp.2.2]
  exact ⟨rfl, rfl⟩

end LabIndex.Timestamp
