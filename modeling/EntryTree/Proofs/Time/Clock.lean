import EntryTree.Proofs.Time.Calendar
import EntryTree.Time.Instant

/-!
# Clocks in universal time

What a clock in universal time shows at an instant, and the instant that it shows again. The date
comes from the number of the day. A year that begins in March is found by an estimate, and its
months by one formula, so the date is first had in that year and then in the calendar. The time of
day exists as long as leap seconds are at the end of a minute.
-/

namespace EntryTree

namespace Date

variable {year month day : Int}

/-- The date of a day of a month, the months counted from March, in a year that begins in March. -/
def ofMarch (year month day : Int) : Date :=
  if month < 10 then ⟨year, (month + 3).toNat, day.toNat⟩
  else ⟨year + 1, (month - 9).toNat, day.toNat⟩

/-- A year that begins in March has the day. -/
structure InMarchYear (year month day : Int) : Prop where
  month_mem : 0 ≤ month ∧ month ≤ 11
  day_pos : 1 ≤ day
  inMonth : monthOffset month + day ≤ monthOffset (month + 1)
  inYear : monthOffset month + day ≤ if isLeapYear (year + 1) then 366 else 365

theorem daysInMonth_le (year : Int) (month : Nat) : daysInMonth year month ≤ 31 := by
  unfold daysInMonth
  split
  · split <;> decide
  · split <;> decide

/-- The months from March to November have the lengths that the formula gives them, December and
January are as long as can be, and February has what is left of the year. -/
theorem exists_ofMarch (within : InMarchYear year month day) : (ofMarch year month day).Exists := by
  have inMonth := within.inMonth
  have inYear := within.inYear
  have positive : 1 ≤ day.toNat := by
    have first := within.day_pos
    omega
  rcases within.month_mem with ⟨first, last⟩
  obtain early | rfl | rfl | rfl : month ≤ 8 ∨ month = 9 ∨ month = 10 ∨ month = 11 := by omega
  · have inCalendar : ((month + 3).toNat : Int) = month + 3 := Int.toNat_of_nonneg (by omega)
    have next : month + 3 - 2 = month + 1 := by omega
    have length := @daysInMonth_eq (month + 3).toNat year (by omega) (by omega)
    rw [inCalendar, next, add_sub_cancel_right] at length
    rw [ofMarch, if_pos (by omega)]
    exact ⟨by simp only; omega, by simp only; omega, positive, by simp only; omega⟩
  · have short : day.toNat ≤ 31 := by
      simp only [monthOffset] at inMonth
      omega
    exact ⟨Nat.le_add_left 1 11, Nat.le_refl 12, positive, short⟩
  · have short : day.toNat ≤ 31 := by
      simp only [monthOffset] at inMonth
      omega
    exact ⟨Nat.le_refl 1, Nat.le_add_left 1 11, positive, short⟩
  · have short : day.toNat ≤ if isLeapYear (year + 1) then 29 else 28 := by
      cases leap : isLeapYear (year + 1) <;> simp [leap, monthOffset] at inYear ⊢ <;> omega
    exact ⟨Nat.le_add_left 1 1, Nat.le_add_left 2 10, positive, short⟩

theorem dayNumber_ofMarch (within : InMarchYear year month day) :
    (ofMarch year month day).dayNumber =
      marchOf year + monthOffset month + (day - 1) - epochOffset := by
  have days : (day.toNat : Int) = day := Int.toNat_of_nonneg (Int.le_of_lt within.day_pos)
  rcases within.month_mem with ⟨first, last⟩
  rw [ofMarch]
  split
  · next beforeJanuary =>
      have sinceMarch : (((month + 3).toNat : Int) + 9) % 12 = month := by omega
      simp only [dayNumber, sinceMarch, days]
      rw [if_neg (by omega)]
  · next fromJanuary =>
      have sinceMarch : (((month - 9).toNat : Int) + 9) % 12 = month := by omega
      simp only [dayNumber, sinceMarch, days]
      rw [if_pos (by omega), Int.add_sub_cancel]

/-- The years up to one of them are of mean length but for two days. -/
theorem marchOf_near (year : Int) :
    146097 * year - 800 ≤ 400 * marchOf year ∧ 400 * marchOf year ≤ 146097 * year + 399 := by
  rw [marchOf]
  omega

theorem mem_yearOfDay (days : Int) :
    marchOf (yearOfDay days) ≤ days ∧ days < marchOf (yearOfDay days + 1) := by
  -- The day lies in the estimated year or in the one behind it.
  have estimate := marchOf_near (400 * days / 146097)
  have next := marchOf_near (400 * days / 146097 + 1)
  have afterNext := marchOf_near (400 * days / 146097 + 1 + 1)
  rw [yearOfDay]
  split <;> omega

theorem exists_inMarchYear (number : Int) :
    ∃ year month day, InMarchYear year month day ∧ ofDayNumber number = ofMarch year month day ∧
      marchOf year + monthOffset month + (day - 1) - epochOffset = number := by
  rcases mem_yearOfDay (number + epochOffset) with ⟨first, last⟩
  have length := marchOf_eq (yearOfDay (number + epochOffset) + 1)
  rw [Int.add_sub_cancel] at length
  refine ⟨_, _, _, ⟨?_, ?_, ?_, ?_⟩, rfl, by omega⟩
  · split at length <;> omega
  · simp only [monthOffset]
    omega
  · simp only [monthOffset]
    omega
  · omega

/-- Every day has a date in the calendar. -/
theorem exists_ofDayNumber (number : Int) : (ofDayNumber number).Exists := by
  rcases exists_inMarchYear number with ⟨year, month, day, within, date, -⟩
  rw [date]
  exact exists_ofMarch within

theorem dayNumber_ofDayNumber (number : Int) : (ofDayNumber number).dayNumber = number := by
  rcases exists_inMarchYear number with ⟨year, month, day, within, date, same⟩
  rw [date, dayNumber_ofMarch within, same]

end Date

/-- An instant of universal time, where a leap second is at the end of a minute. -/
structure Instant.Regular (instant : Instant) : Prop where
  nanos_lt : instant.nanos < 2 * nanosPerSecond
  leap : nanosPerSecond ≤ instant.nanos → instant.seconds % 60 = 59

namespace WallTime

open Instant

variable {instant : Instant}

theorem second_ofInstant_of_le (regular : instant.Regular) (leap : nanosPerSecond ≤ instant.nanos) :
    (ofInstant instant).second = 60 ∧ instant.secondOfDay % 60 = 59 := by
  have last := regular.leap leap
  have small := regular.nanos_lt
  simp only [ofInstant, secondOfDay, secondsPerDay, nanosPerSecond] at leap small ⊢
  omega

theorem second_ofInstant_of_lt (ordinary : instant.nanos < nanosPerSecond) :
    (ofInstant instant).second = instant.secondOfDay.toNat % 60 := by
  rw [ofInstant, Nat.div_eq_of_lt ordinary, Nat.add_zero]

theorem exists_ofInstant (regular : instant.Regular) : (ofInstant instant).Exists := by
  refine ⟨Date.exists_ofDayNumber _, ?_, ?_, ?_⟩
  · simp only [ofInstant, secondOfDay, secondsPerDay]
    omega
  · simp only [ofInstant]
    omega
  · rcases Nat.lt_or_ge instant.nanos nanosPerSecond with ordinary | leap
    · rw [second_ofInstant_of_lt ordinary]
      omega
    · exact (second_ofInstant_of_le regular leap).1.le

/-- An instant is told by what a clock shows at it. -/
theorem instant_ofInstant (regular : instant.Regular) :
    (ofInstant instant).instant 0 = instant := by
  have day : (ofInstant instant).date.dayNumber = instant.day := Date.dayNumber_ofDayNumber _
  have hour : (ofInstant instant).hour = instant.secondOfDay.toNat / 3600 := rfl
  have minute : (ofInstant instant).minute = instant.secondOfDay.toNat / 60 % 60 := rfl
  have nanos : (ofInstant instant).nanos = instant.nanos % nanosPerSecond := rfl
  have whole : instant.day * secondsPerDay + instant.secondOfDay = instant.seconds :=
    Int.ediv_mul_add_emod _ _
  have positive : 0 ≤ instant.secondOfDay := Int.emod_nonneg _ (by decide)
  rcases Nat.lt_or_ge instant.nanos nanosPerSecond with ordinary | leap
  · have second := second_ofInstant_of_lt ordinary
    have notLast : instant.secondOfDay.toNat % 60 ≠ 60 := by omega
    simp only [WallTime.instant, day, hour, minute, nanos, second, if_neg notLast,
      Nat.mod_eq_of_lt ordinary]
    congr 1
    omega
  · rcases second_ofInstant_of_le regular leap with ⟨last, before⟩
    have small := regular.nanos_lt
    simp only [WallTime.instant, day, hour, minute, nanos, if_pos last]
    congr 1
    · omega
    · simp only [nanosPerSecond] at leap small ⊢
      omega

end WallTime
end EntryTree
