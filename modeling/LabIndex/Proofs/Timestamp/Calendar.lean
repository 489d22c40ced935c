import LabIndex.Timestamp.Reader
import Mathlib.Tactic.IntervalCases

/-!
# Days and offsets

The day before and the day after are told by the numbers of the days: a valid date goes to a valid
date whose number is one less or one more. So a clock that is moved to UTC shows a possible time,
and its instant is the local one less the offset.

* `Date.number_next`, `Date.number_previous`: neighbouring days have neighbouring numbers;
* `valid_toUtc`, `nanoseconds_toUtc`: what moving to UTC does to the clock and to the instant.
-/

namespace LabIndex.Timestamp

/-! ## 1. Months -/

section Months

variable {m : Nat} (hlow : 1 ≤ m) (hhigh : m ≤ 12) (y : Int)

include hlow hhigh

/-- Every month has its days, and at most 31. -/
theorem monthLength_bounds : 1 ≤ monthLength y m ∧ monthLength y m ≤ 31 := by
  interval_cases m <;> simp only [monthLength] <;> (try split) <;> omega

theorem one_le_monthLength : 1 ≤ monthLength y m := (monthLength_bounds hlow hhigh y).1

theorem monthLength_le : monthLength y m ≤ 31 := (monthLength_bounds hlow hhigh y).2

end Months

namespace Date

variable {d : Date}

/-! ## 2. The day before and the day after -/

theorem valid_next (h : d.Valid) : d.next.Valid := by
  obtain ⟨hm1, hm12, hd1, hd⟩ := h
  rw [next]
  split
  · exact ⟨hm1, hm12, by simp, by simpa using by omega⟩
  · split
    · refine ⟨by simp, by simpa using by omega, le_refl 1, ?_⟩
      exact one_le_monthLength (by simp) (by simpa using by omega) _
    · exact ⟨le_refl 1, by simp, le_refl 1, one_le_monthLength (le_refl 1) (by simp) _⟩

theorem valid_previous (h : d.Valid) : d.previous.Valid := by
  obtain ⟨hm1, hm12, hd1, hd⟩ := h
  rw [previous]
  split
  · exact ⟨hm1, hm12, by simpa using by omega, by simpa using by omega⟩
  · split
    · have hlow : 1 ≤ d.month - 1 := by omega
      have hhigh : d.month - 1 ≤ 12 := by omega
      exact ⟨hlow, hhigh, one_le_monthLength hlow hhigh _, le_refl _⟩
    · exact ⟨by simp, le_refl 12, by simp, le_refl 31⟩

theorem next_previous (h : d.Valid) : d.previous.next = d := by
  obtain ⟨hm1, hm12, hd1, hd⟩ := h
  obtain ⟨y, m, n⟩ := d
  simp only at hm1 hm12 hd1 hd
  rw [previous]
  split
  · rename_i hn
    simp only at hn
    rw [next, if_pos (by simpa using by omega)]
    simpa using by omega
  · rename_i hn
    simp only at hn
    have hn1 : n = 1 := by omega
    split
    · rename_i hm
      simp only at hm
      rw [next, if_neg (lt_irrefl _), if_pos (by simpa using by omega)]
      simpa using ⟨by omega, hn1.symm⟩
    · rename_i hm
      simp only at hm
      have hm1' : m = 1 := by omega
      simp [next, monthLength, hm1', hn1]

/-- A year has the days of its months. -/
theorem daysBefore_thirteen (y : Int) : daysBefore y 13 = if isLeapYear y then 366 else 365 := by
  simp only [daysBefore, monthLength]
  split <;> rfl

/-- **The day after has the next number.** -/
theorem number_next (h : d.Valid) : d.next.number = d.number + 1 := by
  obtain ⟨hm1, hm12, hd1, hd⟩ := h
  obtain ⟨y, m, n⟩ := d
  simp only at hm1 hm12 hd1 hd
  rw [next]
  split
  · simp only [number]
    omega
  · rename_i hlast
    simp only at hlast
    have hn : n = monthLength y m := by omega
    split
    · simp only [number, daysBefore]
      omega
    · rename_i hm
      simp only at hm
      have hm' : m = 12 := by omega
      subst hm' hn
      -- the last day of a year: its days make up the difference of the two year starts
      have hyear := daysBefore_thirteen y
      have hfirst : daysBefore (y + 1) 1 = 0 := rfl
      rw [daysBefore] at hyear
      simp only [number, hfirst]
      rw [isLeapYear] at hyear
      split at hyear <;> rename_i hleap <;> simp at hleap <;> omega

/-- **The day before has the number before.** -/
theorem number_previous (h : d.Valid) : d.previous.number = d.number - 1 := by
  have hnext := number_next (valid_previous h)
  rw [next_previous h] at hnext
  omega

end Date

/-! ## 3. Moving to UTC -/

section Moving

variable {t : Timestamp} {offset : Int}

/-- A time that is UTC already stays. -/
theorem toUtc_zero (h : t.Valid) : t.toUtc 0 = t := by
  obtain ⟨-, hh, hm, -, -⟩ := h
  obtain ⟨d, hour, minute, second, nano⟩ := t
  simp only at hh hm
  simp only [toUtc, mk.injEq, and_true]
  rw [if_neg (by omega), if_neg (by omega)]
  exact ⟨rfl, by omega, by omega⟩

theorem valid_toUtc (h : t.Valid) (offset : Int) : (t.toUtc offset).Valid := by
  obtain ⟨hd, hh, hm, hs, hn⟩ := h
  have hdate : (t.toUtc offset).date.Valid := by
    simp only [toUtc]
    split
    · exact Date.valid_previous hd
    · split
      · exact Date.valid_next hd
      · exact hd
  refine ⟨hdate, ?_, ?_, hs, hn⟩ <;> simp only [toUtc] <;> omega

/-- **Moving to UTC takes the offset off the instant.** -/
theorem nanoseconds_toUtc (h : t.Valid) (ho : offset.natAbs < 1440) :
    (t.toUtc offset).nanoseconds = t.nanoseconds - offset * 60 * 1000000000 := by
  obtain ⟨hd, hh, hm, -, -⟩ := h
  have hprevious := Date.number_previous hd
  have hnext := Date.number_next hd
  simp only [nanoseconds, toUtc]
  split
  · omega
  · split <;> omega

end Moving

end LabIndex.Timestamp
