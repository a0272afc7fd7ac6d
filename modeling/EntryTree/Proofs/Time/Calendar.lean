import EntryTree.Time.Calendar
import Mathlib.Algebra.BigOperators.Intervals
import Mathlib.Tactic.IntervalCases
import Mathlib.Tactic.Ring

/-!
# Counting days

The number of a day comes from formulas that let the year begin in March. Here it is compared with
the plain count: the days of all years before, of the months before in the same year, and of the
month up to the date. The count is of years from zero on.
-/

namespace EntryTree.Date

variable {year month day : Nat}

def daysInYear (year : Nat) : Nat :=
  if isLeapYear year then 366 else 365

/-- The days from the beginning of year zero to the beginning of a year. -/
def daysBeforeYear (year : Nat) : Nat :=
  ∑ earlier ∈ Finset.range year, daysInYear earlier

/-- The days from the beginning of a year to the beginning of one of its months. -/
def daysBeforeMonth (year month : Nat) : Nat :=
  ∑ earlier ∈ Finset.Ico 1 month, daysInMonth year earlier

/-- The place of a date among the days from the beginning of year zero on. -/
def ordinal (year month day : Nat) : Nat :=
  daysBeforeYear year + daysBeforeMonth year month + day

/-- A year from March to March ends with the leap day of the calendar year that it ends in. -/
theorem marchOf_eq (year : Int) :
    marchOf year = marchOf (year - 1) + if isLeapYear year then 366 else 365 := by
  have fours : year / 4 = (year - 1) / 4 + if year % 4 = 0 then 1 else 0 := by
    split <;> omega
  have hundreds : year / 100 = (year - 1) / 100 + if year % 100 = 0 then 1 else 0 := by
    split <;> omega
  have fourHundreds : year / 400 = (year - 1) / 400 + if year % 400 = 0 then 1 else 0 := by
    split <;> omega
  have hundred : year % 400 = 0 → year % 100 = 0 := by omega
  have four : year % 100 = 0 → year % 4 = 0 := by omega
  rw [marchOf, marchOf, fours, hundreds, fourHundreds]
  by_cases byFour : year % 4 = 0
  · by_cases byHundred : year % 100 = 0
    · by_cases byFourHundred : year % 400 = 0 <;>
        simp [isLeapYear, byFour, byHundred, byFourHundred] <;> ring
    · have notFourHundred := mt hundred byHundred
      simp [isLeapYear, byFour, byHundred, notFourHundred]
      ring
  · have notHundred := mt four byFour
    have notFourHundred := mt hundred notHundred
    simp [isLeapYear, byFour, notHundred, notFourHundred]
    ring

theorem daysBeforeYear_eq (year : Nat) :
    (daysBeforeYear year : Int) = marchOf (year - 1) + 366 := by
  induction year with
  | zero => rfl
  | succ year ih =>
      rw [daysBeforeYear, Finset.sum_range_succ, ← daysBeforeYear, Nat.cast_add, ih,
        Nat.cast_succ, Int.add_sub_cancel, marchOf_eq year, daysInYear]
      split <;> omega

theorem daysBeforeMonth_succ (year : Nat) (positive : 1 ≤ month) :
    daysBeforeMonth year (month + 1) = daysBeforeMonth year month + daysInMonth year month :=
  Finset.sum_Ico_succ_top positive _

theorem daysBeforeMonth_of_le (year : Nat) (positive : 1 ≤ month) (early : month ≤ 2) :
    (daysBeforeMonth year month : Int) = 31 * (month - 1) := by
  interval_cases month <;> simp [daysBeforeMonth, daysInMonth]

/-- From March on, the months have the lengths that the formula gives them. -/
theorem daysInMonth_eq (year : Int) (late : 2 < month) (notLast : month < 12) :
    (daysInMonth year month : Int) = monthOffset (month - 2) - monthOffset (month - 3) := by
  interval_cases month <;> rfl

theorem daysBeforeMonth_of_lt (year : Nat) (late : 2 < month) (inYear : month ≤ 12) :
    (daysBeforeMonth year month : Int) =
      monthOffset (month - 3) + if isLeapYear year then 60 else 59 := by
  -- The formula counts from March, and January and February come before.
  induction month, late using Nat.le_induction with
  | base =>
      rw [daysBeforeMonth_succ year (by decide)]
      have february := daysBeforeMonth_of_le year (by decide) (Nat.le_refl 2)
      push_cast at february ⊢
      rw [february]
      cases leap : isLeapYear year <;> simp [daysInMonth, monthOffset, leap]
  | succ month late ih =>
      have length := daysInMonth_eq year late inYear
      have next : ((month + 1 : Nat) : Int) - 3 = month - 2 := by omega
      rw [daysBeforeMonth_succ year (by omega), Nat.cast_add, ih (by omega), length, next]
      omega

theorem ordinal_le (positive : 1 ≤ month) (inYear : month ≤ 12) :
    ordinal year month day ≤ 366 * (year + 2) + day := by
  have years : daysBeforeYear year ≤ 366 * (year + 1) := by
    have sum := daysBeforeYear_eq year
    rw [marchOf] at sum
    omega
  have months : daysBeforeMonth year month ≤ 366 := by
    rcases Nat.lt_or_ge 2 month with late | early
    · have sum := daysBeforeMonth_of_lt year late inYear
      rw [monthOffset] at sum
      split at sum <;> omega
    · have sum := daysBeforeMonth_of_le year positive early
      omega
  rw [ordinal]
  omega

theorem ordinal_epoch : (ordinal 1970 1 1 : Int) = epochOffset + 61 := by
  have years := daysBeforeYear_eq 1970
  have months := daysBeforeMonth_of_le 1970 (Nat.le_refl 1) (by decide)
  have march : marchOf 1969 = 719162 := by decide
  simp only [ordinal, epochOffset]
  push_cast at years months ⊢
  omega

/-- Days are numbered as they are counted, from the first of January 1970 on. -/
theorem dayNumber_eq (positive : 1 ≤ month) (inYear : month ≤ 12) :
    dayNumber ⟨year, month, day⟩ = (ordinal year month day : Int) - ordinal 1970 1 1 := by
  have years := daysBeforeYear_eq year
  rw [ordinal_epoch, ordinal]
  push_cast
  rcases Nat.lt_or_ge 2 month with late | early
  · have months := daysBeforeMonth_of_lt year late inYear
    have march := marchOf_eq year
    have sinceMarch : ((month : Int) + 9) % 12 = month - 3 := by omega
    simp only [dayNumber, Nat.not_le.mpr late, if_false, sinceMarch, years, months, march]
    split <;> omega
  · have months := daysBeforeMonth_of_le year positive early
    have sinceMarch : ((month : Int) + 9) % 12 = month + 9 := by omega
    simp only [dayNumber, early, if_true, sinceMarch, years, months, monthOffset]
    omega

end EntryTree.Date
