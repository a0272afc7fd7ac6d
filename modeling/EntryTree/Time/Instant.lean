import EntryTree.Time.Calendar
import EntryTree.Time.Span

/-!
# Instants

A point in time is a number of seconds since the beginning of 1970, coordinated universal time,
and a number of nanoseconds. A leap second belongs to the second before it: its nanoseconds go
beyond a full second.

Seconds are counted as if there were no leap seconds, so a difference corrects for the one that it
can see: the leap second that one of the two instants lies in.
-/

namespace EntryTree

/-- A point in time. -/
structure Instant where
  seconds : Int
  nanos : Nat
  deriving DecidableEq, Repr

namespace Instant

/-- The seconds in a day. -/
def secondsPerDay : Int := 86400

/-- Whether an instant lies in a leap second. -/
def isLeap (instant : Instant) : Bool :=
  nanosPerSecond ≤ instant.nanos

/-- The day of an instant, counted from the first of January 1970. -/
def day (instant : Instant) : Int :=
  instant.seconds / secondsPerDay

/-- The second of the day of an instant. -/
def secondOfDay (instant : Instant) : Int :=
  instant.seconds % secondsPerDay

/-- The seconds that a difference gains or loses by a leap second. -/
def leapCorrection (later earlier : Instant) : Int :=
  if earlier.isLeap && earlier.secondOfDay < later.secondOfDay then 1
  else if later.isLeap && later.secondOfDay < earlier.secondOfDay then -1
  else 0

/-- The nanoseconds from `earlier` to `later`, negative if they are the other way round. -/
def since (later earlier : Instant) : Int :=
  (later.seconds - earlier.seconds + leapCorrection later earlier) * nanosPerSecond +
    (later.nanos - earlier.nanos : Int)

/-- The first and the last year that instants lie in. -/
def firstYear : Int := -262143

@[inherit_doc firstYear]
def lastYear : Int := 262142

/-- Whether an instant lies in a year that is supported. -/
def InRange (instant : Instant) : Prop :=
  Date.dayNumber ⟨firstYear, 1, 1⟩ ≤ instant.day ∧ instant.day ≤ Date.dayNumber ⟨lastYear, 12, 31⟩

instance (instant : Instant) : Decidable instant.InRange :=
  inferInstanceAs (Decidable (_ ∧ _))

end Instant

/-- A date and a time of day as a clock on the wall shows them. Second sixty is a leap second. -/
structure WallTime where
  date : Date
  hour : Nat
  minute : Nat
  second : Nat
  nanos : Nat
  deriving DecidableEq, Repr

namespace WallTime

/-- Whether a clock can show a time. -/
def Exists (time : WallTime) : Prop :=
  time.date.Exists ∧ time.hour ≤ 23 ∧ time.minute ≤ 59 ∧ time.second ≤ 60

instance (time : WallTime) : Decidable time.Exists :=
  inferInstanceAs (Decidable (_ ∧ _ ∧ _ ∧ _))

/-- The instant at which a clock shows a time, if the clock is `offset` seconds ahead of universal
time. -/
def instant (time : WallTime) (offset : Int) : Instant :=
  let leap := time.second = 60
  let second := if leap then 59 else time.second
  let secondOfDay : Int := (time.hour * 60 + time.minute) * 60 + second
  ⟨time.date.dayNumber * Instant.secondsPerDay + secondOfDay - offset,
    if leap then time.nanos + nanosPerSecond else time.nanos⟩

/-- The instant at which a clock shows a time, if there is one. -/
def instant? (time : WallTime) (offset : Int) : Option Instant :=
  let supported := Instant.firstYear ≤ time.date.year ∧ time.date.year ≤ Instant.lastYear
  if time.Exists ∧ supported ∧ (time.instant offset).InRange then some (time.instant offset)
  else none

/-- What a clock in universal time shows at an instant. -/
def ofInstant (instant : Instant) : WallTime :=
  let second := instant.secondOfDay.toNat
  { date := .ofDayNumber instant.day
    hour := second / 3600
    minute := second / 60 % 60
    second := second % 60 + instant.nanos / nanosPerSecond
    nanos := instant.nanos % nanosPerSecond }

end WallTime
end EntryTree
