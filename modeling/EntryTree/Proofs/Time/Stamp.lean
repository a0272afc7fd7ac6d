import EntryTree.Proofs.Time.Calendar
import EntryTree.Proofs.Time.Fields

/-!
# Timestamps and their notations

A timestamp says a date, a time of day and how far the clock that shows them is from universal time.
Here is the instant that it means, by plain counting of days, and the texts that write it. Month and
day are in the range that two digits are used for, and whether the calendar has the date is another
question. The instant is the one that the clock stands for, and there is none only where the
calendar has no such date.
-/

namespace EntryTree

open Text Text.Scanner Instant

/-- What a timestamp says: a date and a time of day as a clock shows them, and how far the clock is
ahead of universal time. -/
structure Stamp where
  year : Nat
  month : Nat
  day : Nat
  hour : Nat
  minute : Nat
  second : Nat
  /-- The digits behind the point of the second, if there is one. -/
  fraction : List Char
  /-- The clock is behind universal time, and not ahead. -/
  behind : Bool
  offsetHours : Nat
  offsetMinutes : Nat
  year_le : year ≤ 9999
  month_mem : 1 ≤ month ∧ month ≤ 12
  day_mem : 1 ≤ day ∧ day ≤ 31
  hour_le : hour ≤ 23
  minute_le : minute ≤ 59
  second_le : second ≤ 60
  fraction_digits : ∀ c ∈ fraction, c.isDigit = true
  offsetHours_le : offsetHours ≤ 23
  offsetMinutes_le : offsetMinutes ≤ 59

namespace Stamp

/-! ## What a timestamp means -/

/-- The seconds that the clock is ahead of universal time. -/
def offset (stamp : Stamp) : Int :=
  let size : Int := (stamp.offsetHours * 60 + stamp.offsetMinutes) * 60
  if stamp.behind then -size else size

theorem abs_offset_lt (stamp : Stamp) : -86400 < stamp.offset ∧ stamp.offset < 86400 := by
  have hours := stamp.offsetHours_le
  have minutes := stamp.offsetMinutes_le
  rw [offset]
  split <;> omega

/-- The nanoseconds in the fraction. Digits behind the ninth do not count. -/
def nanos (stamp : Stamp) : Nat :=
  decimal stamp.fraction * 10 ^ 9 / 10 ^ stamp.fraction.length

/-- The calendar has the date. -/
def Exists (stamp : Stamp) : Prop :=
  stamp.day ≤ Date.daysInMonth stamp.year stamp.month

instance (stamp : Stamp) : Decidable stamp.Exists :=
  inferInstanceAs (Decidable (_ ≤ _))

/-- The instant at which the clock shows the time. Second sixty is a leap second. -/
def instant (stamp : Stamp) : Instant where
  seconds :=
    ((Date.ordinal stamp.year stamp.month stamp.day : Int) - Date.ordinal 1970 1 1) * 86400 +
      (stamp.hour * 3600 + stamp.minute * 60 + min stamp.second 59 : Nat) - stamp.offset
  nanos := if stamp.second = 60 then stamp.nanos + 10 ^ 9 else stamp.nanos

/-- The date and the time of day that are read. -/
def wallTime (stamp : Stamp) : WallTime :=
  ⟨⟨stamp.year, stamp.month, stamp.day⟩, stamp.hour, stamp.minute, stamp.second, stamp.nanos⟩

theorem instant_wallTime (stamp : Stamp) :
    stamp.wallTime.instant stamp.offset = stamp.instant := by
  have number : Date.dayNumber ⟨stamp.year, stamp.month, stamp.day⟩ = _ :=
    Date.dayNumber_eq stamp.month_mem.1 stamp.month_mem.2
  have bound := stamp.second_le
  simp only [WallTime.instant, wallTime, instant, number, secondsPerDay, nanosPerSecond]
  by_cases leap : stamp.second = 60
  · simp [leap]
    ring
  · have ordinary : min stamp.second 59 = stamp.second := by omega
    simp [leap, ordinary]
    ring

theorem inRange_instant (stamp : Stamp) : stamp.instant.InRange := by
  have first : Date.dayNumber ⟨firstYear, 1, 1⟩ ≤ -1000000 := by decide
  have last : 4000000 ≤ Date.dayNumber ⟨lastYear, 12, 31⟩ := by decide
  have epoch := Date.ordinal_epoch
  have latest : Date.ordinal stamp.year stamp.month stamp.day ≤ _ :=
    Date.ordinal_le stamp.month_mem.1 stamp.month_mem.2
  have year := stamp.year_le
  have day := stamp.day_mem
  have hour := stamp.hour_le
  have minute := stamp.minute_le
  have ahead := stamp.abs_offset_lt
  rw [Date.epochOffset] at epoch
  simp only [InRange, Instant.day, instant, secondsPerDay]
  omega

theorem exists_wallTime_iff (stamp : Stamp) : stamp.wallTime.Exists ↔ stamp.Exists := by
  have hour := stamp.hour_le
  have minute := stamp.minute_le
  have second := stamp.second_le
  have month := stamp.month_mem
  have day := stamp.day_mem
  simp only [WallTime.Exists, Date.Exists, wallTime, Exists]
  omega

theorem instant?_wallTime (stamp : Stamp) :
    stamp.wallTime.instant? stamp.offset = if stamp.Exists then some stamp.instant else none := by
  have supported : firstYear ≤ stamp.wallTime.date.year ∧ stamp.wallTime.date.year ≤ lastYear := by
    have bound := stamp.year_le
    simp only [wallTime, firstYear, lastYear]
    omega
  simp only [WallTime.instant?, instant_wallTime, exists_wallTime_iff, supported, inRange_instant,
    and_true]

/-! ## How a timestamp is written -/

def dateText (stamp : Stamp) : List Char :=
  (padded 4 stamp.year).toList ++ '-' :: ((padded 2 stamp.month).toList ++
    '-' :: (padded 2 stamp.day).toList)

def clockText (stamp : Stamp) : List Char :=
  (padded 2 stamp.hour).toList ++ ':' :: ((padded 2 stamp.minute).toList ++
    ':' :: ((padded 2 stamp.second).toList ++ pointed stamp.fraction))

/-- The offset, with a text between its hours and its minutes. -/
def offsetText (stamp : Stamp) (between : List Char) : List Char :=
  (if stamp.behind then '-' else '+') ::
    ((padded 2 stamp.offsetHours).toList ++ (between ++ (padded 2 stamp.offsetMinutes).toList))

/-- What stands behind a time of day that is in universal time. -/
abbrev universalEnding : List Char :=
  [' ', 'U', 'T', 'C']

/-- The date, a separator, the time of day and an ending. -/
def text (stamp : Stamp) (separator : Char) (ending : List Char) : List Char :=
  stamp.dateText ++ separator :: (stamp.clockText ++ ending)

/-- The notations of timestamps, by what stands between the date and the time of day and by what
stands behind them. -/
inductive Writes (stamp : Stamp) : Char → List Char → Prop
  | internet : Writes stamp 'T' (stamp.offsetText [':'])
  | spaced : Writes stamp ' ' (' ' :: stamp.offsetText [])
  | zoned {zone : List Char} (present : zone ≠ []) (letters : ∀ c ∈ zone, c.isAlpha = true) :
      Writes stamp ' ' (' ' :: (stamp.offsetText [] ++ ' ' :: zone))
  | joined : Writes stamp 'T' (stamp.offsetText [])
  | universal (zero : stamp.offset = 0) : Writes stamp ' ' universalEnding
  | universalJoined (zero : stamp.offset = 0) : Writes stamp 'T' universalEnding
  | zulu (zero : stamp.offset = 0) : Writes stamp 'T' ['Z']

theorem text_append (stamp : Stamp) (c : Char) (first second : List Char) :
    stamp.text c (first ++ second) = stamp.text c first ++ second := by
  simp [text]

/-- Years have four digits, and the other numbers two. -/
structure Short (stamp : Stamp) : Prop where
  year : stamp.year < 10000
  month : stamp.month < 100
  day : stamp.day < 100
  hour : stamp.hour < 100
  minute : stamp.minute < 100
  second : stamp.second < 100
  offsetHours : stamp.offsetHours < 100
  offsetMinutes : stamp.offsetMinutes < 100

theorem short (stamp : Stamp) : stamp.Short := by
  have month := stamp.month_mem
  have day := stamp.day_mem
  have hour := stamp.hour_le
  have minute := stamp.minute_le
  have second := stamp.second_le
  have hours := stamp.offsetHours_le
  have minutes := stamp.offsetMinutes_le
  refine ⟨Nat.lt_succ_of_le stamp.year_le, ?_, ?_, ?_, ?_, ?_, ?_, ?_⟩ <;> omega

end Stamp
end EntryTree
