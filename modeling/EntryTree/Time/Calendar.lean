/-!
# The proleptic Gregorian calendar

Dates with a year zero and negative years before it, numbered by the days since the first of
January 1970. Days are counted in years that begin in March, so that the leap day ends a year and
the lengths of the months follow one formula.
-/

namespace EntryTree

/-- A calendar date, which need not exist. -/
structure Date where
  year : Int
  month : Nat
  day : Nat
  deriving DecidableEq, Repr

namespace Date

/-- Whether a year has a leap day. -/
def isLeapYear (year : Int) : Bool :=
  year % 4 = 0 && (year % 100 != 0 || year % 400 = 0)

/-- The number of days in a month of a year. -/
def daysInMonth (year : Int) (month : Nat) : Nat :=
  if month = 2 then (if isLeapYear year then 29 else 28)
  else if month = 4 || month = 6 || month = 9 || month = 11 then 30
  else 31

/-- Whether the calendar has a date. -/
def Exists (date : Date) : Prop :=
  1 ≤ date.month ∧ date.month ≤ 12 ∧ 1 ≤ date.day ∧ date.day ≤ daysInMonth date.year date.month

instance (date : Date) : Decidable date.Exists :=
  inferInstanceAs (Decidable (_ ∧ _ ∧ _ ∧ _))

/-- The days from the March of year zero to the March of a year. -/
def marchOf (year : Int) : Int :=
  365 * year + year / 4 - year / 100 + year / 400

/-- The days from the first of March to the first day of a month that many months later. -/
def monthOffset (monthsSinceMarch : Int) : Int :=
  (153 * monthsSinceMarch + 2) / 5

/-- The days from the March of year zero to the first of January 1970. -/
def epochOffset : Int := 719468

/-- The days from the first of January 1970 to a date. -/
def dayNumber (date : Date) : Int :=
  let year := if date.month ≤ 2 then date.year - 1 else date.year
  let monthsSinceMarch : Int := (date.month + 9) % 12
  marchOf year + monthOffset monthsSinceMarch + (date.day - 1) - epochOffset

/-- The year, beginning in March, that a day since the March of year zero lies in. The estimate is
the year itself or the year before. -/
def yearOfDay (days : Int) : Int :=
  let estimate := 400 * days / 146097
  if marchOf (estimate + 1) ≤ days then estimate + 1 else estimate

/-- The date that many days after the first of January 1970. -/
def ofDayNumber (number : Int) : Date :=
  let days := number + epochOffset
  let year := yearOfDay days
  let dayOfYear := days - marchOf year
  let monthsSinceMarch := (5 * dayOfYear + 2) / 153
  let day := dayOfYear - monthOffset monthsSinceMarch + 1
  if monthsSinceMarch < 10 then ⟨year, (monthsSinceMarch + 3).toNat, day.toNat⟩
  else ⟨year + 1, (monthsSinceMarch - 9).toNat, day.toNat⟩

end Date
end EntryTree
