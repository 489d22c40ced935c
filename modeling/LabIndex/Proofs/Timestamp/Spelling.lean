import LabIndex.Proofs.Answers
import LabIndex.Proofs.Timestamp.Calendar
import Mathlib.Data.List.Induction
import Mathlib.Data.List.TakeWhile
import Mathlib.Tactic.Ring

/-!
# The parts of a point in time

The grammar of the texts that are accepted as points in time, part by part and apart from the
reader: what a part looks like and which value it has. For every part the reader finds what the
grammar has (`readTwo_sound`, …) and takes what it has (`readTwo_append`, …), where the text behind
the part does not go on with it.

* `Digits`, `TwoDigits`, `Year`, `Mark`, `Separator`, `Fraction`, `Offset`: the parts;
* `readFraction_sound`: a fraction of any length is worth its digits, cut to nanoseconds.
-/

namespace LabIndex.Timestamp

open Text (isBlank)

/-! ## 1. Blanks and digits -/

/-- Nothing but blanks. -/
def Blanks (p : List Char) : Prop := ∀ c ∈ p, isBlank c = true

/-- Digits, at least one, with their value. -/
structure Digits (p : List Char) (n : Nat) : Prop where
  ne_nil : p ≠ []
  all : ∀ c ∈ p, c.isDigit = true
  value : digitsValue p = n

/-- The text does not start with a character of this sort. -/
def Stops (sort : Char → Bool) (s : List Char) : Prop := ∀ c ∈ s.head?, sort c = false

section Runs

variable {sort : Char → Bool} {p s rest : List Char} {n w : Nat}

theorem stops_cons {c : Char} : Stops sort (c :: s) ↔ sort c = false := by
  simp [Stops]

theorem stops_append (hp : ∀ c ∈ p, sort c = false) (hs : Stops sort s) : Stops sort (p ++ s) := by
  cases p with
  | nil => exact hs
  | cons c p => exact stops_cons.mpr (hp c List.mem_cons_self)

theorem stops_dropWhile : Stops sort (s.dropWhile sort) := by
  intro c hc
  induction s with
  | nil => cases hc
  | cons d s ih =>
      rw [List.dropWhile_cons] at hc
      split at hc
      · exact ih hc
      · rename_i hd
        rw [List.head?_cons, Option.mem_some_iff] at hc
        simpa [← hc] using hd

theorem Stops.dropWhile_eq (h : Stops sort s) : s.dropWhile sort = s := by
  cases s with
  | nil => rfl
  | cons c s => rw [List.dropWhile_cons_of_neg (by simp [stops_cons.mp h])]

theorem Stops.takeWhile_eq (h : Stops sort s) : s.takeWhile sort = [] := by
  cases s with
  | nil => rfl
  | cons c s => rw [List.takeWhile_cons_of_neg (by simp [stops_cons.mp h])]

theorem not_isBlank_of_isDigit {c : Char} (h : c.isDigit = true) : isBlank c = false := by
  obtain ⟨hlow, hhigh⟩ := Char.isDigit_iff_toNat.mp h
  simp only [Char.reduceToNat] at hlow hhigh
  simp [isBlank, Text.inRanges, Text.blankRanges]
  omega

theorem not_isDigit_of_isBlank {c : Char} (h : isBlank c = true) : c.isDigit = false := by
  cases hd : c.isDigit with
  | false => rfl
  | true => rw [not_isBlank_of_isDigit hd] at h; cases h

/-- The letters and marks of the grammar are no blanks. -/
theorem not_isBlank_of_mem {c : Char}
    (h : c ∈ ['-', '+', ':', '.', 'T', 't', 'Z', 'z', 'U', 'u', '\u2212']) : isBlank c = false := by
  simp only [List.mem_cons, List.not_mem_nil, or_false] at h
  rcases h with rfl | rfl | rfl | rfl | rfl | rfl | rfl | rfl | rfl | rfl | rfl <;>
    simp [isBlank, Text.inRanges, Text.blankRanges]

theorem Blanks.not_isDigit (h : Blanks p) : ∀ c ∈ p, c.isDigit = false :=
  fun c hc => not_isDigit_of_isBlank (h c hc)

theorem skipBlanks_append (h : Blanks p) (s : List Char) : skipBlanks (p ++ s) = skipBlanks s :=
  List.dropWhile_append_of_pos h

theorem skipBlanks_skipBlanks (s : List Char) : skipBlanks (skipBlanks s) = skipBlanks s :=
  stops_dropWhile.dropWhile_eq

/-- What is skipped are blanks. -/
theorem exists_blanks (s : List Char) : ∃ p, s = p ++ skipBlanks s ∧ Blanks p :=
  ⟨s.takeWhile isBlank, (List.takeWhile_append_dropWhile ..).symm,
    fun _ hc => List.mem_takeWhile_imp hc⟩

/-! The value of digits is that of the decimal numeral. -/

theorem digitsValue_append (a b : List Char) :
    digitsValue (a ++ b) = digitsValue a * 10 ^ b.length + digitsValue b := by
  induction b using List.reverseRecOn with
  | nil => simp [digitsValue]
  | append_singleton b d ih =>
      have hstep (l : List Char) :
          digitsValue (l ++ [d]) = digitsValue l * 10 + (d.toNat - '0'.toNat) := by
        simp only [digitsValue, List.foldl_append, List.foldl_cons, List.foldl_nil]
      rw [← List.append_assoc, hstep, ih, hstep, List.length_append, List.length_singleton,
        Nat.pow_succ]
      ring

theorem digitsValue_lt (h : ∀ c ∈ p, c.isDigit = true) : digitsValue p < 10 ^ p.length := by
  induction p using List.reverseRecOn with
  | nil => simp [digitsValue]
  | append_singleton p d ih =>
      have hd := Char.isDigit_iff_toNat.mp (h d (by simp))
      have hp := ih fun c hc => h c (List.mem_append_left _ hc)
      simp only [Char.reduceToNat] at hd
      have hone : digitsValue [d] = d.toNat - 48 := by simp [digitsValue]
      rw [digitsValue_append, hone, List.length_append, List.length_singleton, Nat.pow_succ]
      omega

theorem Digits.lt (h : Digits p n) : n < 10 ^ p.length := h.value ▸ digitsValue_lt h.all

theorem Digits.stops_isBlank (h : Digits p n) (s : List Char) : Stops isBlank (p ++ s) := by
  obtain ⟨c, p, rfl⟩ := List.exists_cons_of_ne_nil h.ne_nil
  exact stops_cons.mpr (not_isBlank_of_isDigit (h.all c List.mem_cons_self))

/-! Reading digits takes as many as there are, up to the width. -/

/-- The digits that a text starts with, up to a width, end at the width or where no digit goes
    on. -/
theorem exists_leadingDigits (w : Nat) (s : List Char) :
    ∃ p rest, (s.take w).takeWhile Char.isDigit = p ∧ s = p ++ rest ∧
      (∀ c ∈ p, c.isDigit = true) ∧ p.length ≤ w ∧ (p.length = w ∨ Stops Char.isDigit rest) := by
  obtain ⟨p, hp⟩ : ∃ p, (s.take w).takeWhile Char.isDigit = p := ⟨_, rfl⟩
  obtain ⟨more, hmore⟩ : ∃ more, (s.take w).dropWhile Char.isDigit = more := ⟨_, rfl⟩
  have htake : s.take w = p ++ more := by
    rw [← hp, ← hmore, List.takeWhile_append_dropWhile]
  refine ⟨p, more ++ s.drop w, hp, ?_, fun c hc => List.mem_takeWhile_imp (hp ▸ hc), ?_, ?_⟩
  · rw [← List.append_assoc, ← htake, List.take_append_drop]
  · rw [← hp]
    exact (List.takeWhile_prefix _).length_le.trans (List.length_take_le w s)
  · cases more with
    | nil =>
        -- everything within the width is a digit
        rw [List.append_nil] at htake
        rcases Nat.le_total w s.length with hw | hw
        · exact .inl (by rw [← htake, List.length_take_of_le hw])
        · exact .inr (by simp [Stops, List.drop_of_length_le hw])
    | cons c more =>
        have hstop : Stops Char.isDigit (c :: more) := hmore ▸ stops_dropWhile
        exact .inr (stops_cons.mpr (stops_cons.mp hstop))

theorem readDigits_sound (h : readDigits w s = .ok (n, rest)) :
    ∃ p, s = p ++ rest ∧ Digits p n ∧ p.length ≤ w ∧
      (p.length = w ∨ Stops Char.isDigit rest) := by
  obtain ⟨p, more, hp, hs, hall, hlength, hend⟩ := exists_leadingDigits w s
  cases p with
  | nil => cases s <;> simp only [readDigits, hp] at h <;> cases h
  | cons d p =>
      cases s with
      | nil => cases hs
      | cons c s =>
          simp only [readDigits, hp] at h
          split at h
          · obtain ⟨hvalue, hrest⟩ := Prod.mk.inj (Except.ok.inj h)
            rw [hs, List.drop_left] at hrest
            subst hrest
            exact ⟨d :: p, hs, ⟨by simp, hall, hvalue⟩, hlength, hend⟩
          · cases h

theorem readDigits_append (hp : Digits p n) (hw : p.length ≤ w)
    (hend : p.length = w ∨ Stops Char.isDigit rest) :
    readDigits w (p ++ rest) =
      if n < 0x8000000000000000 then .ok (n, rest) else .error .outOfRange := by
  have hstop : (rest.take (w - p.length)).takeWhile Char.isDigit = [] := by
    rcases hend with hlen | hstop
    · simp [hlen]
    · refine Stops.takeWhile_eq fun c hc => hstop c ?_
      rw [List.head?_take] at hc
      split at hc
      · cases hc
      · exact hc
  have htake : ((p ++ rest).take w).takeWhile Char.isDigit = p := by
    rw [List.take_append, List.take_of_length_le hw, List.takeWhile_append_of_pos hp.all, hstop,
      List.append_nil]
  obtain ⟨c, p, rfl⟩ := List.exists_cons_of_ne_nil hp.ne_nil
  rw [List.cons_append] at htake ⊢
  simp only [readDigits, htake, hp.value]
  simp

end Runs

/-! ## 2. The parts of a spelling -/

/-- A number of one or two digits within bounds, after blanks. -/
inductive TwoDigits (low high : Nat) : List Char → Nat → Prop
  | mk {b ds : List Char} {n : Nat} (blanks : Blanks b) (digits : Digits ds n)
      (short : ds.length ≤ 2) (least : low ≤ n) (most : n ≤ high) : TwoDigits low high (b ++ ds) n

/-- A year, after blanks: up to four digits, or a sign and any number of them. -/
inductive Year : List Char → Int → Prop
  | plain {b ds : List Char} {n : Nat} (blanks : Blanks b) (digits : Digits ds n)
      (short : ds.length ≤ 4) : Year (b ++ ds) n
  | plus {b ds : List Char} {n : Nat} (blanks : Blanks b) (digits : Digits ds n) :
      Year (b ++ '+' :: ds) n
  | minus {b ds : List Char} {n : Nat} (blanks : Blanks b) (digits : Digits ds n) :
      Year (b ++ '-' :: ds) (-n)

/-- A mark, after blanks. -/
inductive Mark (c : Char) : List Char → Prop
  | mk {b : List Char} (blanks : Blanks b) : Mark c (b ++ [c])

/-- What stands between the date and the time. -/
inductive Separator : List Char → Prop
  | letter {c : Char} (isT : c = 'T' ∨ c = 't') : Separator [c]
  | blanks {c : Char} {b : List Char} (first : isBlank c = true) (others : Blanks b) :
      Separator (c :: b)

/-- The fraction of a second, in nanoseconds: what the digits are worth, cut to whole ones. -/
inductive Fraction : List Char → Nat → Prop
  | whole : Fraction [] 0
  | digits {ds : List Char} {n : Nat} (digits : Digits ds n) :
      Fraction ('.' :: ds) (n * 10 ^ 9 / 10 ^ ds.length)

/-- Hours and minutes of two digits each, in minutes; colons and blanks may stand between. -/
inductive Shift : List Char → Nat → Prop
  | mk {hs gap ms : List Char} {hours minutes : Nat} (hoursDigits : Digits hs hours)
      (hoursLength : hs.length = 2) (between : ∀ c ∈ gap, c = ':' ∨ isBlank c = true)
      (minutesDigits : Digits ms minutes) (minutesLength : ms.length = 2) (most : minutes < 60) :
      Shift (hs ++ gap ++ ms) (hours * 60 + minutes)

/-- An offset from UTC, in minutes. -/
inductive Offset : List Char → Int → Prop
  | zulu {c : Char} (isZ : c = 'Z' ∨ c = 'z') : Offset [c] 0
  | utc {p : List Char} (name : p.map Char.toLower = ['u', 't', 'c']) : Offset p 0
  | east {p : List Char} {n : Nat} (shift : Shift p n) : Offset ('+' :: p) n
  | west {c : Char} {p : List Char} {n : Nat} (minus : c = '-' ∨ c = '\u2212') (shift : Shift p n) :
      Offset (c :: p) (-n)

/-! ## 3. Reading the parts -/

section Parts

variable {s rest p : List Char} {low high n : Nat} {y o : Int} {c : Char}

theorem readTwo_sound (h : readTwo low high s = .ok (n, rest)) :
    ∃ p, s = p ++ rest ∧ TwoDigits low high p n := by
  rw [readTwo, bind_eq_ok_iff] at h
  obtain ⟨⟨m, r⟩, hm, h⟩ := h
  simp only at h
  split at h
  · rename_i hbounds
    cases h
    obtain ⟨b, hb, hblanks⟩ := exists_blanks s
    obtain ⟨ds, hds, hdigits, hlength, -⟩ := readDigits_sound hm
    exact ⟨b ++ ds, by rw [List.append_assoc, ← hds, ← hb],
      .mk hblanks hdigits hlength hbounds.1 hbounds.2⟩
  · cases h

theorem readTwo_append (hp : TwoDigits low high p n) (hrest : Stops Char.isDigit rest) :
    readTwo low high (p ++ rest) = .ok (n, rest) := by
  obtain ⟨hblanks, hdigits, hshort, hleast, hmost⟩ := hp
  rename_i b ds
  have hlt : n < 0x8000000000000000 := by
    have hle : 10 ^ ds.length ≤ 10 ^ 2 := Nat.pow_le_pow_right (by omega) hshort
    have := hdigits.lt
    omega
  rw [readTwo, List.append_assoc, skipBlanks_append hblanks, skipBlanks,
    (hdigits.stops_isBlank rest).dropWhile_eq, readDigits_append hdigits hshort (.inr hrest),
    if_pos hlt]
  exact if_pos ⟨hleast, hmost⟩

theorem readYear_sound (h : readYear s = .ok (y, rest)) :
    (∃ p, s = p ++ rest ∧ Year p y) ∧ -0x80000000 ≤ y ∧ y < 0x80000000 := by
  obtain ⟨b, hb, hblanks⟩ := exists_blanks s
  rw [readYear, bind_eq_ok_iff] at h
  obtain ⟨⟨z, r⟩, hz, h⟩ := h
  simp only at h
  split at h
  swap
  · cases h
  rename_i hbounds
  cases h
  refine ⟨?_, hbounds⟩
  split at hz
  · rename_i r hr
    obtain ⟨⟨m, r'⟩, hm, he⟩ := bind_eq_ok_iff.mp hz
    cases he
    obtain ⟨ds, hds, hdigits, -, -⟩ := readDigits_sound hm
    exact ⟨b ++ '-' :: ds, by rw [List.append_assoc, List.cons_append, ← hds, ← hr, ← hb],
      .minus hblanks hdigits⟩
  · rename_i r hr
    obtain ⟨⟨m, r'⟩, hm, he⟩ := bind_eq_ok_iff.mp hz
    cases he
    obtain ⟨ds, hds, hdigits, -, -⟩ := readDigits_sound hm
    exact ⟨b ++ '+' :: ds, by rw [List.append_assoc, List.cons_append, ← hds, ← hr, ← hb],
      .plus hblanks hdigits⟩
  · obtain ⟨⟨m, r'⟩, hm, he⟩ := bind_eq_ok_iff.mp hz
    cases he
    obtain ⟨ds, hds, hdigits, hshort, -⟩ := readDigits_sound hm
    exact ⟨b ++ ds, by rw [List.append_assoc, ← hds, ← hb], .plain hblanks hdigits hshort⟩

/-- A year is within 32 bits. -/
abbrev WithinYears (y : Int) : Prop := -0x80000000 ≤ y ∧ y < 0x80000000

theorem readYear_append (hp : Year p y) (hrest : Stops Char.isDigit rest) :
    readYear (p ++ rest) = if WithinYears y then .ok (y, rest) else .error .outOfRange := by
  -- behind a sign the digits are as many as there are; a number too large for the reader of
  -- digits is too large for a year
  have hsigned {ds : List Char} {n : Nat} (hdigits : Digits ds n) :
      readDigits (ds ++ rest).length (ds ++ rest) =
        if n < 0x8000000000000000 then .ok (n, rest) else .error .outOfRange :=
    readDigits_append hdigits (by simp) (.inr hrest)
  cases hp with
  | @plain b ds n hblanks hdigits hshort =>
      have hlt : n < 0x8000000000000000 := by
        have hle : 10 ^ ds.length ≤ 10 ^ 4 := Nat.pow_le_pow_right (by omega) hshort
        have := hdigits.lt
        omega
      have hread := readDigits_append hdigits hshort (.inr hrest)
      rw [if_pos hlt] at hread
      rw [readYear, List.append_assoc, skipBlanks_append hblanks, skipBlanks,
        (hdigits.stops_isBlank rest).dropWhile_eq]
      obtain ⟨d, ds, rfl⟩ := List.exists_cons_of_ne_nil hdigits.ne_nil
      have hd : d.isDigit = true := hdigits.all d List.mem_cons_self
      have hminus : d ≠ '-' := by rintro rfl; cases hd
      have hplus : d ≠ '+' := by rintro rfl; cases hd
      rw [List.cons_append] at hread ⊢
      split
      · rename_i h
        exact absurd (List.cons.inj h).1 hminus
      · rename_i h
        exact absurd (List.cons.inj h).1 hplus
      · simp only [hread, bind, Except.bind, pure, Except.pure, throw, throwThe,
          MonadExceptOf.throw]
  | @plus b ds n hblanks hdigits =>
      rw [readYear, List.append_assoc, skipBlanks_append hblanks, List.cons_append, skipBlanks,
        List.dropWhile_cons_of_neg (by simp [not_isBlank_of_mem])]
      simp only [hsigned hdigits]
      by_cases hn : n < 0x8000000000000000
      · simp only [if_pos hn, bind, Except.bind, pure, Except.pure, throw, throwThe,
          MonadExceptOf.throw]
      · rw [if_neg hn, if_neg (by omega)]
        rfl
  | @minus b ds n hblanks hdigits =>
      rw [readYear, List.append_assoc, skipBlanks_append hblanks, List.cons_append, skipBlanks,
        List.dropWhile_cons_of_neg (by simp [not_isBlank_of_mem])]
      simp only [hsigned hdigits]
      by_cases hn : n < 0x8000000000000000
      · simp only [if_pos hn, bind, Except.bind, pure, Except.pure, throw, throwThe,
          MonadExceptOf.throw]
      · rw [if_neg hn, if_neg (by omega)]
        rfl

theorem readMark_sound (h : readMark c s = .ok rest) : ∃ p, s = p ++ rest ∧ Mark c p := by
  obtain ⟨b, hb, hblanks⟩ := exists_blanks s
  rw [readMark] at h
  split at h
  · cases h
  · rename_i d r hr
    split at h
    · rename_i hd
      cases h
      exact ⟨b ++ [c], by rw [List.append_assoc, ← hd, List.singleton_append, ← hr, ← hb],
        .mk hblanks⟩
    · cases h

theorem readMark_append (hc : isBlank c = false) (hp : Mark c p) (rest : List Char) :
    readMark c (p ++ rest) = .ok rest := by
  obtain ⟨hblanks⟩ := hp
  rw [readMark, List.append_assoc, skipBlanks_append hblanks, List.singleton_append, skipBlanks,
    List.dropWhile_cons_of_neg (by simp [hc])]
  exact if_pos rfl

theorem readSeparator_sound (h : readSeparator s = .ok rest) :
    ∃ p, s = p ++ rest ∧ Separator p := by
  cases s with
  | nil => cases h
  | cons c s =>
      rw [readSeparator] at h
      split at h
      · rename_i hc
        cases h
        exact ⟨[c], rfl, .letter hc⟩
      · split at h
        · rename_i hc
          cases h
          obtain ⟨b, hb, hblanks⟩ := exists_blanks s
          exact ⟨c :: b, by rw [List.cons_append, ← hb], .blanks hc hblanks⟩
        · cases h

/-- After a separator blanks do not count. -/
theorem readSeparator_append (hp : Separator p) (rest : List Char) :
    ∃ r, readSeparator (p ++ rest) = .ok r ∧ skipBlanks r = skipBlanks rest := by
  cases hp with
  | @letter c hc => exact ⟨rest, if_pos hc, rfl⟩
  | @blanks c b hc hb =>
      have hT : ¬ (c = 'T' ∨ c = 't') := by
        rintro (rfl | rfl) <;> simp [not_isBlank_of_mem] at hc
      refine ⟨skipBlanks (b ++ rest), ?_, ?_⟩
      · rw [List.cons_append, readSeparator, if_neg hT, if_pos hc]
      · rw [skipBlanks_append hb, skipBlanks_skipBlanks]

/-- Up to nine digits are worth a whole number of nanoseconds. -/
theorem cut_of_le {l : Nat} (h : l ≤ 9) (n : Nat) : n * 10 ^ 9 / 10 ^ l = n * 10 ^ (9 - l) := by
  have hsplit : n * 10 ^ 9 = n * 10 ^ (9 - l) * 10 ^ l := by
    rw [Nat.mul_assoc, ← Nat.pow_add, Nat.sub_add_cancel h]
  rw [hsplit, Nat.mul_div_cancel _ (Nat.pow_pos (by omega))]

/-- Digits behind the ninth are cut off. -/
theorem cut_append {k v : Nat} (h : v < 10 ^ k) (n : Nat) :
    (n * 10 ^ k + v) * 10 ^ 9 / 10 ^ (9 + k) = n := by
  rw [Nat.pow_add, Nat.mul_comm, Nat.mul_div_mul_left _ _ (by omega), Nat.mul_comm,
    Nat.mul_add_div (Nat.pow_pos (by omega)), Nat.div_eq_of_lt h, Nat.add_zero]

/-- Of the digits of a fraction the first nine make up the nanoseconds. -/
theorem cut_digits {first more : List Char} (hlength : first.length ≤ 9)
    (hend : first.length = 9 ∨ more = []) (hall : ∀ c ∈ more, c.isDigit = true) :
    digitsValue (first ++ more) * 10 ^ 9 / 10 ^ (first ++ more).length =
      digitsValue first * 10 ^ (9 - first.length) := by
  rcases hend with hnine | rfl
  · rw [digitsValue_append, List.length_append, hnine, cut_append (digitsValue_lt hall),
      Nat.sub_self, Nat.pow_zero, Nat.mul_one]
  · rw [List.append_nil, cut_of_le hlength]

/-- Digits are the first nine of them and others. -/
theorem Digits.exists_nine (h : Digits p n) : ∃ first more, p = first ++ more ∧
    Digits first (digitsValue first) ∧ (∀ c ∈ more, c.isDigit = true) ∧ first.length ≤ 9 ∧
      (first.length = 9 ∨ more = []) := by
  have hsplit := List.take_append_drop 9 p
  refine ⟨p.take 9, p.drop 9, hsplit.symm, ⟨?_, ?_, rfl⟩, ?_, List.length_take_le 9 p, ?_⟩
  · simpa using h.ne_nil
  · exact fun c hc => h.all c (List.mem_of_mem_take hc)
  · exact fun c hc => h.all c (List.mem_of_mem_drop hc)
  · rcases Nat.le_total 9 p.length with hle | hle
    · exact .inl (List.length_take_of_le hle)
    · exact .inr (List.drop_of_length_le hle)

/-- **The fraction that is read is the one that the digits are worth**, cut to nanoseconds. -/
theorem readFraction_sound (h : readFraction s = .ok (n, rest)) :
    ∃ p, s = p ++ rest ∧ Fraction p n := by
  unfold readFraction at h
  split at h
  · rename_i r
    split at h
    · cases h
    · rename_i m r' hm
      cases h
      obtain ⟨first, hfirst, hdigits, hlength, hend⟩ := readDigits_sound hm
      -- the digits that are passed over
      obtain ⟨more, hmore⟩ : ∃ more, r'.takeWhile Char.isDigit = more := ⟨_, rfl⟩
      have hr' : r' = more ++ r'.dropWhile Char.isDigit := by
        rw [← hmore, List.takeWhile_append_dropWhile]
      have hall : ∀ c ∈ more, c.isDigit = true := fun c hc => List.mem_takeWhile_imp (hmore ▸ hc)
      have hwhole : Digits (first ++ more) (digitsValue (first ++ more)) :=
        ⟨by simp [hdigits.ne_nil],
          fun c hc => (List.mem_append.mp hc).elim (hdigits.all c) (hall c), rfl⟩
      have hcount : r.length - r'.length = first.length := by
        rw [hfirst, List.length_append, Nat.add_sub_cancel]
      have hend' : first.length = 9 ∨ more = [] :=
        hend.imp_right fun hstop => by rw [← hmore, hstop.takeWhile_eq]
      have hnano := cut_digits hlength hend' hall
      rw [hdigits.value, ← hcount] at hnano
      refine ⟨'.' :: (first ++ more), ?_, ?_⟩
      · rw [hfirst, List.cons_append, List.append_assoc, ← hr']
      · exact hnano ▸ .digits hwhole
  · cases h
    exact ⟨[], rfl, .whole⟩

theorem readFraction_append (hp : Fraction p n) (hdigit : Stops Char.isDigit rest)
    (hpoint : Stops (· == '.') rest) : readFraction (p ++ rest) = .ok (n, rest) := by
  cases hp with
  | whole =>
      rw [List.nil_append, readFraction]
      rintro r rfl
      simp [stops_cons] at hpoint
  | @digits ds m hdigits =>
      obtain ⟨first, more, hds, hfirst, hall, hlength, hend⟩ := hdigits.exists_nine
      have hlt : digitsValue first < 0x8000000000000000 := by
        have hle : 10 ^ first.length ≤ 10 ^ 9 := Nat.pow_le_pow_right (by omega) hlength
        have := hfirst.lt
        omega
      have hread : readDigits 9 (first ++ (more ++ rest)) =
          .ok (digitsValue first, more ++ rest) := by
        rw [readDigits_append hfirst hlength, if_pos hlt]
        exact hend.imp_right fun hnil => by rwa [hnil, List.nil_append]
      have hcount : (first ++ (more ++ rest)).length - (more ++ rest).length = first.length := by
        rw [List.length_append, Nat.add_sub_cancel]
      have hnano := cut_digits hlength hend hall
      rw [← hds, hdigits.value] at hnano
      rw [hnano, List.cons_append, hds, List.append_assoc, readFraction]
      simp only [hread, hcount, List.dropWhile_append_of_pos hall, hdigit.dropWhile_eq,
        Nat.pow_eq]

theorem readPair_sound {a b : Nat} (h : readPair s = some (a, b)) :
    ∃ p, s = p ++ s.drop 2 ∧ Digits p (a * 10 + b) ∧ p.length = 2 ∧ (6 ≤ a ↔ 60 ≤ a * 10 + b) := by
  unfold readPair at h
  split at h
  · rename_i c d r
    split at h
    · rename_i hcd
      rw [Bool.and_eq_true] at hcd
      obtain ⟨rfl, rfl⟩ := Prod.mk.inj (Option.some.inj h)
      have hd := Char.isDigit_iff_toNat.mp hcd.2
      refine ⟨[c, d], rfl, ⟨by simp, by simpa using hcd, ?_⟩, rfl, ?_⟩
      · simp [digitsValue]
      · simp only [Char.reduceToNat] at hd ⊢
        omega
    · cases h
  · cases h

theorem readPair_append (hp : Digits p n) (hlength : p.length = 2) (rest : List Char) :
    ∃ a b, readPair (p ++ rest) = some (a, b) ∧ n = a * 10 + b ∧ b < 10 := by
  obtain ⟨c, d, rfl⟩ := List.length_eq_two.mp hlength
  have hc : c.isDigit = true := hp.all c (by simp)
  have hd : d.isDigit = true := hp.all d (by simp)
  refine ⟨c.toNat - '0'.toNat, d.toNat - '0'.toNat, ?_, ?_, ?_⟩
  · simp [readPair, hc, hd]
  · rw [← hp.value]
    simp [digitsValue]
  · have := Char.isDigit_iff_toNat.mp hd
    simp only [Char.reduceToNat] at this ⊢
    omega

theorem isShort_append (hlength : p.length = 2) (rest : List Char) :
    isShort (p ++ rest) = false := by
  obtain ⟨c, d, rfl⟩ := List.length_eq_two.mp hlength
  rfl

theorem readOffsetDigits_sound (h : readOffsetDigits s = .ok (n, rest)) :
    ∃ p, s = p ++ rest ∧ Shift p n := by
  rw [readOffsetDigits] at h
  split at h
  · cases h
  split at h
  · cases h
  rename_i a b hhours
  simp only at h
  split at h
  · cases h
  split at h
  · cases h
  rename_i c d hminutes
  split at h
  · cases h
  rename_i hmost
  cases h
  obtain ⟨hs, hhs, hhoursDigits, hhoursLength, -⟩ := readPair_sound hhours
  obtain ⟨ms, hms, hminutesDigits, hminutesLength, hsix⟩ := readPair_sound hminutes
  obtain ⟨gap, hgap⟩ :
      ∃ gap, (s.drop 2).takeWhile (fun c => c = ':' || isBlank c) = gap := ⟨_, rfl⟩
  have hbetween : ∀ e ∈ gap, e = ':' ∨ isBlank e = true := fun e he => by
    have := List.mem_takeWhile_imp (hgap ▸ he)
    simpa using this
  refine ⟨hs ++ gap ++ ms, ?_, ?_⟩
  · rw [List.append_assoc, ← hms, List.append_assoc, ← hgap, List.takeWhile_append_dropWhile, ← hhs]
  · have := Shift.mk hhoursDigits hhoursLength hbetween hminutesDigits hminutesLength (by omega)
    rwa [← Nat.add_assoc] at this

theorem readOffsetDigits_append (hp : Shift p n) (rest : List Char) :
    readOffsetDigits (p ++ rest) = .ok (n, rest) := by
  obtain ⟨hhours, hhoursLength, hbetween, hminutes, hminutesLength, hmost⟩ := hp
  rename_i hs gap ms hours minutes
  obtain ⟨a, b, hab, rfl, -⟩ := readPair_append hhours hhoursLength (gap ++ (ms ++ rest))
  obtain ⟨c, d, hcd, rfl, hd⟩ := readPair_append hminutes hminutesLength rest
  have hgap : (gap ++ (ms ++ rest)).dropWhile (fun c => c = ':' || isBlank c) = ms ++ rest := by
    rw [List.dropWhile_append_of_pos fun e he => by simpa using hbetween e he]
    refine Stops.dropWhile_eq ?_
    obtain ⟨e, ms, rfl⟩ := List.exists_cons_of_ne_nil hminutes.ne_nil
    have he : e.isDigit = true := hminutes.all e List.mem_cons_self
    have hcolon : e ≠ ':' := by rintro rfl; cases he
    exact stops_cons.mpr (by simp [hcolon, not_isBlank_of_isDigit he])
  have hdrop {q : List Char} (hq : q.length = 2) (r : List Char) : (q ++ r).drop 2 = r := by
    rw [← hq, List.drop_left]
  rw [List.append_assoc, List.append_assoc, readOffsetDigits]
  simp only [isShort_append hhoursLength, isShort_append hminutesLength, hab, hcd,
    hdrop hhoursLength, hdrop hminutesLength, hgap]
  rw [if_neg (by simp), if_neg (by simp), if_neg (by omega), Nat.add_assoc]

theorem readOffset_sound (h : readOffset s = .ok (o, rest)) :
    ∃ p, s = p ++ rest ∧ Offset p o := by
  cases s with
  | nil => cases h
  | cons c s =>
      rw [readOffset] at h
      split at h
      · rename_i hz
        cases h
        exact ⟨[c], rfl, .zulu hz⟩
      · split at h
        · rename_i hutc
          cases h
          exact ⟨(c :: s).take 3, (List.take_append_drop 3 _).symm, .utc hutc⟩
        · split at h
          · rename_i hplus
            obtain ⟨⟨m, r⟩, hm, he⟩ := exists_of_map_eq_ok h
            cases he
            obtain ⟨p, hp, hshift⟩ := readOffsetDigits_sound hm
            exact ⟨'+' :: p, by rw [hplus, hp, List.cons_append], .east hshift⟩
          · split at h
            · rename_i hminus
              obtain ⟨⟨m, r⟩, hm, he⟩ := exists_of_map_eq_ok h
              cases he
              obtain ⟨p, hp, hshift⟩ := readOffsetDigits_sound hm
              exact ⟨c :: p, by rw [hp, List.cons_append], .west hminus hshift⟩
            · cases h

theorem readOffset_append (hp : Offset p o) (rest : List Char) :
    readOffset (p ++ rest) = .ok (o, rest) := by
  cases hp with
  | @zulu c hz => exact if_pos hz
  | utc hname =>
      have hlength : p.length = 3 := by simpa using congrArg List.length hname
      obtain ⟨c, d, e, rfl⟩ := List.length_eq_three.mp hlength
      have hc : c.toLower = 'u' := (List.cons.inj hname).1
      have hz : ¬ (c = 'Z' ∨ c = 'z') := by rintro (rfl | rfl) <;> cases hc
      rw [List.cons_append, readOffset, if_neg hz]
      exact if_pos hname
  | @east q m hshift =>
      rw [List.cons_append, readOffset, if_neg (by decide), if_neg (by simp), if_pos rfl,
        readOffsetDigits_append hshift]
      rfl
  | @west c q m hminus hshift =>
      have hz : ¬ (c = 'Z' ∨ c = 'z') := by
        rintro (rfl | rfl) <;> rcases hminus with h | h <;> cases h
      rw [List.cons_append, readOffset, if_neg hz, if_neg, if_neg, if_pos hminus,
        readOffsetDigits_append hshift]
      · rfl
      · rcases hminus with rfl | rfl <;> decide
      · rcases hminus with rfl | rfl <;> simp

end Parts

end LabIndex.Timestamp
