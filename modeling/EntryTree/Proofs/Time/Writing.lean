import EntryTree.Proofs.Time.Agreement
import EntryTree.Proofs.Time.Clock

/-!
# Writing instants

An instant in a year of four digits is written as the timestamp that a clock in universal time
shows, with a `Z` behind it. The fraction has the fewest groups of three digits that are exact, so
nothing of it is lost, and a leap second is written as second sixty. Attributes are read with blanks
where none are written, which makes no difference to what was written without them.
-/

namespace EntryTree

open Text Text.Scanner

namespace Instant

variable {instant : Instant} {nanos : Nat}

/-- An instant that is written with four digits for the year. -/
structure Portable (instant : Instant) : Prop extends instant.Regular where
  year_nonneg : 0 ≤ (WallTime.ofInstant instant).date.year
  year_le : (WallTime.ofInstant instant).date.year ≤ 9999

/-! ## The fraction of a second -/

/-- The digits behind the point, in the fewest groups of three that are exact. -/
def fractionDigits (nanos : Nat) : List Char :=
  if nanos = 0 then []
  else if nanos % 1000000 = 0 then (padded 3 (nanos / 1000000)).toList
  else if nanos % 1000 = 0 then (padded 6 (nanos / 1000)).toList
  else (padded 9 nanos).toList

theorem isDigit_of_mem_fractionDigits {c : Char} (member : c ∈ fractionDigits nanos) :
    c.isDigit = true := by
  unfold fractionDigits at member
  split at member
  · contradiction
  · split at member
    · exact isDigit_of_mem_padded member
    · split at member <;> exact isDigit_of_mem_padded member

theorem pointed_padded {width value : Nat} (positive : 0 < width) (small : value < 10 ^ width) :
    pointed (padded width value).toList = ("." ++ padded width value).toList := by
  have present : (padded width value).toList ≠ [] := by
    rw [← List.length_pos_iff, length_padded positive small]
    exact positive
  rw [pointed, if_neg present, String.toList_append]
  rfl

theorem toList_writeFraction (small : nanos < 10 ^ 9) :
    (writeFraction nanos).toList = pointed (fractionDigits nanos) := by
  unfold writeFraction fractionDigits
  split
  · rfl
  · split
    · exact (pointed_padded (by omega) (by omega)).symm
    · split
      · exact (pointed_padded (by omega) (by omega)).symm
      · exact (pointed_padded (by omega) small).symm

/-- Digits in units of a smaller power of ten, which are as many as the power has places. -/
theorem decimal_padded_scaled {width value : Nat} (positive : 0 < width) (narrow : width ≤ 9)
    (small : value < 10 ^ width) :
    decimal (padded width value).toList * 10 ^ 9 / 10 ^ (padded width value).toList.length =
      value * 10 ^ (9 - width) := by
  have power : 10 ^ 9 = 10 ^ (9 - width) * 10 ^ width := by
    rw [← Nat.pow_add, Nat.sub_add_cancel narrow]
  rw [length_padded positive small, decimal_padded, power, ← Nat.mul_assoc,
    Nat.mul_div_cancel _ (Nat.pow_pos (by omega))]

/-- In thousandths, millionths or billionths, the fraction is exact. -/
theorem decimal_fractionDigits (small : nanos < 10 ^ 9) :
    decimal (fractionDigits nanos) * 10 ^ 9 / 10 ^ (fractionDigits nanos).length = nanos := by
  unfold fractionDigits
  split
  · next zero => exact zero.symm
  · split
    · rw [decimal_padded_scaled (by omega) (by omega) (by omega)]
      omega
    · split
      · rw [decimal_padded_scaled (by omega) (by omega) (by omega)]
        omega
      · rw [decimal_padded_scaled (by omega) (by omega) small]
        exact Nat.mul_one nanos

end Instant

/-! ## The timestamp of an instant -/

namespace Stamp

open Instant

variable {instant : Instant}

/-- What a clock in universal time shows at an instant. -/
def ofInstant (instant : Instant) (portable : instant.Portable) : Stamp where
  year := (WallTime.ofInstant instant).date.year.toNat
  month := (WallTime.ofInstant instant).date.month
  day := (WallTime.ofInstant instant).date.day
  hour := (WallTime.ofInstant instant).hour
  minute := (WallTime.ofInstant instant).minute
  second := (WallTime.ofInstant instant).second
  fraction := fractionDigits (WallTime.ofInstant instant).nanos
  behind := false
  offsetHours := 0
  offsetMinutes := 0
  year_le := Int.toNat_le.mpr portable.year_le
  month_mem := by
    rcases WallTime.exists_ofInstant portable.toRegular with ⟨⟨first, last, -⟩, -⟩
    exact ⟨first, last⟩
  day_mem := by
    rcases WallTime.exists_ofInstant portable.toRegular with ⟨⟨-, -, first, last⟩, -⟩
    exact ⟨first, last.trans (Date.daysInMonth_le _ _)⟩
  hour_le := (WallTime.exists_ofInstant portable.toRegular).2.1
  minute_le := (WallTime.exists_ofInstant portable.toRegular).2.2.1
  second_le := (WallTime.exists_ofInstant portable.toRegular).2.2.2
  fraction_digits := fun _ => isDigit_of_mem_fractionDigits
  offsetHours_le := Nat.zero_le 23
  offsetMinutes_le := Nat.zero_le 59

theorem nanos_wallTime_lt (instant : Instant) : (WallTime.ofInstant instant).nanos < 10 ^ 9 :=
  Nat.mod_lt _ (by decide)

variable (portable : instant.Portable)

theorem wallTime_ofInstant :
    (ofInstant instant portable).wallTime = WallTime.ofInstant instant := by
  have year : ((ofInstant instant portable).year : Int) = (WallTime.ofInstant instant).date.year :=
    Int.toNat_of_nonneg portable.year_nonneg
  have nanos : (ofInstant instant portable).nanos = (WallTime.ofInstant instant).nanos :=
    decimal_fractionDigits (nanos_wallTime_lt instant)
  rw [wallTime, year, nanos]
  rfl

theorem toList_toRfc3339 :
    instant.toRfc3339.toList = (ofInstant instant portable).text 'T' ['Z'] := by
  have year : 0 ≤ (WallTime.ofInstant instant).date.year ∧
      (WallTime.ofInstant instant).date.year ≤ 9999 :=
    ⟨portable.year_nonneg, portable.year_le⟩
  simp only [toRfc3339, writeYear, if_pos year, String.toList_append,
    toList_writeFraction (nanos_wallTime_lt instant), text, dateText, clockText, ofInstant]
  simp

theorem instant?_ofInstant :
    (ofInstant instant portable).wallTime.instant? 0 = some instant := by
  have offset : (ofInstant instant portable).offset = 0 := rfl
  have present : (ofInstant instant portable).Exists := by
    rw [← exists_wallTime_iff, wallTime_ofInstant]
    exact WallTime.exists_ofInstant portable.toRegular
  have read := (ofInstant instant portable).instant?_wallTime
  rwa [if_pos present, ← instant_wallTime, offset, wallTime_ofInstant portable,
    WallTime.instant_ofInstant portable.toRegular, ← wallTime_ofInstant portable] at read

/-! ## Reading with blanks -/

variable {stamp : Stamp} {c : Char} {rest : List Char}

theorem wallTime_of_gaps {separator : Scanner Unit}
    (separates : ∀ chars, separator (c :: chars) = some ((), chars)) (stops : Stops rest) :
    Instant.wallTime blanks separator (stamp.text c rest) = some (stamp.wallTime, rest) := by
  have hyphen (chars : List Char) : blanks ('-' :: chars) = some ((), '-' :: chars) := rfl
  have colon (chars : List Char) : blanks (':' :: chars) = some ((), ':' :: chars) := rfl
  simp only [text, dateText, clockText, List.append_assoc, List.cons_append, Instant.wallTime]
  rw [bind_of_read _ (yearField_padded stamp.short.year _), bind_of_read _ (hyphen _),
    bind_of_read _ (char_cons _ _), bind_of_read _ (shortField_padded stamp.short.month _),
    bind_of_read _ (hyphen _), bind_of_read _ (char_cons _ _),
    bind_of_read _ (shortField_padded stamp.short.day _), bind_of_read _ (separates _),
    bind_of_read _ (shortField_padded stamp.short.hour _), bind_of_read _ (colon _),
    bind_of_read _ (char_cons _ _), bind_of_read _ (shortField_padded stamp.short.minute _),
    bind_of_read _ (colon _), bind_of_read _ (char_cons _ _),
    bind_of_read _ (shortField_padded stamp.short.second _),
    bind_of_read _ (fraction_pointed stamp.fraction_digits stops)]
  rfl

theorem ofTolerant?_text (stamp : Stamp) :
    ofTolerant? (stamp.text 'T' ['Z']) = stamp.wallTime.instant? 0 := by
  have stops : Stops ['Z'] := by
    rintro _ ⟨⟩
    decide
  have offset : tolerantOffset ['Z'] = some (0, []) := rfl
  have read : tolerant (stamp.text 'T' ['Z']) = some ((stamp.wallTime, 0), []) := by
    rw [tolerant, bind_of_read _ (wallTime_of_gaps (fun _ => rfl) stops), bind_of_read _ offset]
    rfl
  rw [ofTolerant?, readAll?, read]
  rfl

end Stamp

/-- An instant that is written is read again. -/
theorem Instant.ofTolerant?_toRfc3339 {instant : Instant} (portable : instant.Portable) :
    ofTolerant? instant.toRfc3339.toList = some instant := by
  rw [Stamp.toList_toRfc3339 portable, Stamp.ofTolerant?_text, Stamp.instant?_ofInstant portable]

end EntryTree
