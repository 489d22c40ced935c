import LabIndex.Proofs.Timestamp.Readings
import Mathlib.Data.Nat.Digits.Defs

/-!
# Points in time written and read back

The written form of a possible time spells it, with no offset from UTC. So the form is accepted,
as the same point in time; and a text that is accepted is written back as one that denotes the same
instant.

* `spells_text`: the written form spells its time;
* `parse_text`: it is read back;
* `restates_of_parse`: what an accepted text becomes.
-/

namespace LabIndex

/-! ## 1. Digits up to a width -/

namespace Decimal

open Timestamp (digitsValue Digits)

variable {n w : Nat}

theorem digitsValue_toDigits (n : Nat) : digitsValue (Nat.toDigits 10 n) = n := by
  have h : Nat.ofDigitChars 10 (Nat.toDigits 10 n) 0 = n := Nat.ofDigitChars_ten_toDigits
  rw [Nat.ofDigitChars_eq_foldl] at h
  simpa only [digitsValue, Nat.mul_comm] using h

theorem toList_padded (w n : Nat) : (padded w n).toList =
    List.replicate (w - (Nat.toDigits 10 n).length) '0' ++ Nat.toDigits 10 n := by
  rw [padded, String.toList_append, String.toList_ofList, Nat.toList_repr, ← String.length_toList,
    Nat.toList_repr]

/-- Zeros in front do not change what digits are worth. -/
theorem digits_padded (w n : Nat) : Digits (padded w n).toList n := by
  have hzeros (k : Nat) : digitsValue (List.replicate k '0') = 0 := by
    induction k with
    | zero => rfl
    | succ k ih => rw [List.replicate_succ', Timestamp.digitsValue_append, ih]; rfl
  rw [toList_padded]
  refine ⟨by simp [Nat.toDigits_ne_nil], fun c hc => ?_, ?_⟩
  · rcases List.mem_append.mp hc with hc | hc
    · rw [List.eq_of_mem_replicate hc]
      rfl
    · exact Nat.isDigit_of_mem_toDigits (by decide) (by decide) hc
  · rw [Timestamp.digitsValue_append, hzeros, digitsValue_toDigits, Nat.zero_mul, Nat.zero_add]

/-- A number that fits is as wide as it has to be. -/
theorem length_padded (hw : 0 < w) (h : n < 10 ^ w) : (padded w n).toList.length = w := by
  have hle := Nat.toDigits_length 10 n w hw h
  rw [toList_padded, List.length_append, List.length_replicate]
  omega

end Decimal

namespace Timestamp

open Decimal (padded digits_padded length_padded)

/-! ## 2. The written form -/

variable {t : Timestamp} {text : String}

theorem blanks_nil : Blanks [] := fun _ h => nomatch h

theorem twoDigits_padded {low high n : Nat} (hlow : low ≤ n) (hhigh : n ≤ high)
    (hshort : high < 100) : TwoDigits low high (padded 2 n).toList n := by
  have hlength : (padded 2 n).toList.length = 2 := length_padded (by omega) (by omega)
  have htwo := TwoDigits.mk blanks_nil (digits_padded 2 n) hlength.le hlow hhigh
  rwa [List.nil_append] at htwo

theorem mark_singleton (c : Char) : Mark c [c] := .mk blanks_nil

theorem year_yearText (y : Int) : Year (yearText y).toList y := by
  rw [yearText]
  split
  · rename_i h
    have hlength : (padded 4 y.toNat).toList.length = 4 := length_padded (by omega) (by omega)
    have hyear := Year.plain blanks_nil (digits_padded 4 y.toNat) hlength.le
    rwa [List.nil_append, Int.toNat_of_nonneg h.1] at hyear
  · rw [String.toList_append]
    split
    · rename_i h
      have hyear := Year.minus blanks_nil (digits_padded 4 y.natAbs)
      rwa [List.nil_append, Int.ofNat_natAbs_of_nonpos (by omega), Int.neg_neg] at hyear
    · rename_i h
      have hyear := Year.plus blanks_nil (digits_padded 4 y.natAbs)
      rwa [List.nil_append, Int.natAbs_of_nonneg (by omega)] at hyear

/-- Digits that are dropped from a fraction are zeros. -/
theorem fraction_fractionText {nano : Nat} (h : nano < 1000000000) :
    Fraction (fractionText nano).toList nano := by
  have hpoint {w n : Nat} (hw : 0 < w) (hn : n < 10 ^ w) (hvalue : n * 10 ^ 9 / 10 ^ w = nano) :
      Fraction ("." ++ padded w n).toList nano := by
    have hfraction := Fraction.digits (digits_padded w n)
    rw [length_padded hw hn, hvalue] at hfraction
    rwa [String.toList_append]
  rw [fractionText]
  split
  · rename_i hzero
    subst hzero
    exact .whole
  split
  · exact hpoint (by omega) (by omega) (by omega)
  split
  · exact hpoint (by omega) (by omega) (by omega)
  · exact hpoint (by omega) (by omega) (by omega)

/-- **The written form spells its time**, with no offset. -/
theorem spells_text (h : t.Valid) : Reading.Spells t.text.toList ⟨t, 0⟩ := by
  obtain ⟨⟨hmonth, hmonth', hday, hday'⟩, hhour, hminute, hsecond, hnano⟩ := h
  have hdays := monthLength_le hmonth hmonth' t.date.year
  have hdate := Reading.DateText.mk (year_yearText t.date.year) (mark_singleton '-')
    (twoDigits_padded hmonth hmonth' (by omega)) (mark_singleton '-')
    (twoDigits_padded hday (hday'.trans hdays) (by omega))
  have htime := Reading.ClockText.mk
    (twoDigits_padded (Nat.zero_le t.hour) (Nat.le_of_lt_succ hhour) (by omega))
    (mark_singleton ':')
    (twoDigits_padded (Nat.zero_le t.minute) (Nat.le_of_lt_succ hminute) (by omega))
    (mark_singleton ':') (twoDigits_padded (Nat.zero_le t.second) hsecond (by omega))
    (fraction_fractionText hnano)
  have hspells : Reading.Spells _ ⟨t, 0⟩ := .mk hdate (.letter (.inl rfl)) htime blanks_nil
    (.zulu (.inl rfl)) blanks_nil
  simpa [text] using hspells

/-- **A possible time is read back** from its written form. -/
theorem parse_text (h : t.Valid) (hy : yearInRange t.date.year = true) : parse t.text = .ok t := by
  have hutc := toUtc_zero h
  exact parse_eq_ok_iff.mpr ⟨⟨t, 0⟩, spells_text h, ⟨hy, h.1, by simp⟩, hutc, hy⟩

/-! ## 3. Accepted texts written back -/

/-- What becomes of a text: it is accepted as a point in time, the written form of that is in UTC
    and accepted as the same point in time, and both texts denote the same instant. -/
structure Restates (text : String) (t : Timestamp) : Prop where
  accepted : parse text = .ok t
  again : parse t.text = .ok t
  inUtc : Reading.Spells t.text.toList ⟨t, 0⟩
  denotes : Denotes text t.nanoseconds t.second
  denotesAgain : Denotes t.text t.nanoseconds t.second

/-- **An accepted text is written back in UTC** as a text that is accepted again and denotes the
    same instant. -/
theorem restates_of_parse (h : parse text = .ok t) : Restates text t where
  accepted := h
  again := parse_text (valid_of_parse h).1 (valid_of_parse h).2
  inUtc := spells_text (valid_of_parse h).1
  denotes := denotes_of_parse h
  denotesAgain := denotes_of_parse (parse_text (valid_of_parse h).1 (valid_of_parse h).2)

end Timestamp

end LabIndex
