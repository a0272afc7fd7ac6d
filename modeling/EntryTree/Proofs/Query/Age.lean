import EntryTree.Proofs.Text.Characters
import EntryTree.Query.TimeTest
import Mathlib.Algebra.Order.Group.Unbundled.Int

/-!
# Tests of ages

A test without braces counts how many whole units ago its subject was. More than a count means one
whole unit more at least, so what is compared with the exact age is a multiple of the unit on either
side, and the comparison is the one of the whole units in the age, rounded down.

A count is a number of any length. It is refused only if the count itself, or the seconds in the
multiple of the unit, do not fit a word of 64 bits.
-/

namespace EntryTree

open Text

namespace TimeUnit

variable {unit : TimeUnit} {suffix : List Char}

def letter : TimeUnit → Char
  | .second => 's'
  | .minute => 'm'
  | .hour => 'h'
  | .day => 'd'
  | .week => 'w'

theorem ofSuffix?_eq_some_iff : ofSuffix? suffix = some unit ↔ suffix = [unit.letter] := by
  constructor
  · intro read
    unfold ofSuffix? at read
    split at read <;> simp_all [letter]
    all_goals subst unit; rfl
  · rintro rfl
    cases unit <;> rfl

theorem isDecimalDigit_letter (unit : TimeUnit) : isDecimalDigit unit.letter = false := by
  cases unit <;> decide

theorem isDigit_letter (unit : TimeUnit) : unit.letter.isDigit = false := by
  cases unit <;> rfl

theorem seconds_pos (unit : TimeUnit) : 0 < unit.seconds := by
  cases unit <;> simp [seconds]

/-- The whole units in a number of nanoseconds, rounded down. -/
def wholeUnits (unit : TimeUnit) (nanos : Int) : Int :=
  nanos / (unit.seconds * nanosPerSecond : Nat)

theorem le_wholeUnits_iff (count : Nat) (nanos : Int) :
    (count : Int) ≤ unit.wholeUnits nanos ↔
      ((Span.ofSeconds (count * unit.seconds)).nanos : Int) ≤ nanos := by
  have positive : (0 : Int) < (unit.seconds * nanosPerSecond : Nat) := by
    have seconds := unit.seconds_pos
    simp only [nanosPerSecond]
    omega
  rw [wholeUnits, Int.le_ediv_iff_mul_le positive, Span.ofSeconds, Nat.mul_assoc]
  simp

end TimeUnit

namespace Bound

def sign : Bound → Char
  | .moreThan => '+'
  | .lessThan => '-'

/-- The count, and the seconds that ages are compared with, fit words of 64 bits. -/
def Fits (bound : Bound) (count : Nat) (unit : TimeUnit) : Prop :=
  count ≤ 2 ^ 64 - 1 ∧
    match bound with
    | .moreThan => (count + 1) * unit.seconds ≤ 2 ^ 64 - 1
    | .lessThan => count * unit.seconds ≤ 2 ^ 64 - 1

instance (bound : Bound) (count : Nat) (unit : TimeUnit) : Decidable (bound.Fits count unit) :=
  match bound with
  | .moreThan => inferInstanceAs (Decidable (_ ∧ (count + 1) * unit.seconds ≤ 2 ^ 64 - 1))
  | .lessThan => inferInstanceAs (Decidable (_ ∧ count * unit.seconds ≤ 2 ^ 64 - 1))

def Admits (bound : Bound) (units : Int) (count : Nat) : Prop :=
  match bound with
  | .moreThan => count < units
  | .lessThan => units < count

instance (bound : Bound) (units : Int) (count : Nat) : Decidable (bound.Admits units count) :=
  match bound with
  | .moreThan => inferInstanceAs (Decidable ((count : Int) < units))
  | .lessThan => inferInstanceAs (Decidable (units < (count : Int)))

end Bound

namespace TimeTest

variable {bound : Bound} {count : Nat} {unit : TimeUnit} {reference : Instant}
  {text digits : List Char}

theorem splitMagnitude?_eq_some_iff :
    splitMagnitude? text = some (digits, unit) ↔
      digits ≠ [] ∧ (∀ c ∈ digits, c.isDigit = true) ∧ text = digits ++ [unit.letter] := by
  unfold splitMagnitude?
  constructor
  · intro split
    by_cases empty : (text.takeWhile Char.isDigit).isEmpty
    · simp [empty] at split
    · simp only [empty, Bool.false_eq_true, if_false, Option.map_eq_some_iff,
        Prod.mk.injEq] at split
      rcases split with ⟨_, suffix, rfl, rfl⟩
      rw [TimeUnit.ofSuffix?_eq_some_iff] at suffix
      refine ⟨by simpa using empty, fun c member => List.mem_takeWhile_imp member, ?_⟩
      rw [← suffix, List.takeWhile_append_dropWhile]
  · rintro ⟨present, ascii, rfl⟩
    have other := unit.isDigit_letter
    have suffix : TimeUnit.ofSuffix? [unit.letter] = some unit :=
      TimeUnit.ofSuffix?_eq_some_iff.mpr rfl
    simp [List.takeWhile_append_of_pos ascii, List.dropWhile_append_of_pos ascii, other, present,
      suffix]

theorem past?_of_fits (fits : bound.Fits count unit) :
    past? bound count unit reference = .ok ⟨bound, .past count unit, reference⟩ := by
  have positive := unit.seconds_pos
  rcases fits with ⟨counted, seconds⟩
  unfold past?
  apply if_pos
  cases bound with
  | moreThan =>
      simp only [reach, limit] at seconds ⊢
      refine ⟨?_, seconds⟩
      exact Nat.le_trans (Nat.le_mul_of_pos_right _ positive) seconds
  | lessThan => exact ⟨counted, seconds⟩

theorem past?_of_not_fits (counted : count ≤ limit) (excess : ¬bound.Fits count unit) :
    past? bound count unit reference = .error (.malformed s!"magnitude {count} is too large") := by
  unfold past?
  apply if_neg
  rintro ⟨_, seconds⟩
  apply excess
  cases bound <;> exact ⟨counted, seconds⟩

theorem holds_past_iff {subject : Instant} :
    holds ⟨bound, .past count unit, reference⟩ subject = true ↔
      0 ≤ reference.since subject ∧
        bound.Admits (unit.wholeUnits (reference.since subject)) count := by
  generalize elapsed : reference.since subject = nanos
  simp only [holds, elapsed, Bool.and_eq_true, decide_eq_true_eq]
  apply and_congr_right
  intro _
  cases bound with
  | moreThan =>
      have reached := unit.le_wholeUnits_iff (count + 1) nanos
      simp only [decide_eq_true_eq]
      simp only [reach, Bound.Admits, ← reached]
      omega
  | lessThan =>
      have reached := unit.le_wholeUnits_iff count nanos
      simp only [decide_eq_true_eq]
      simp only [reach, Bound.Admits]
      omega

def ageToken (bound : Bound) (digits : List Char) (unit : TimeUnit) : String :=
  String.ofList (bound.sign :: (digits ++ [unit.letter]))

theorem read_ageToken (present : digits ≠ []) (ascii : ∀ c ∈ digits, c.isDigit = true)
    (tail : List String) :
    read reference (ageToken bound digits unit :: tail) =
      if limit < decimal digits then .error (.malformed s!"{String.ofList digits} is too large")
      else (Halt.lift (past? bound (decimal digits) unit reference)).map (·, tail) := by
  have split : splitMagnitude? (digits ++ [unit.letter]) = some (digits, unit) :=
    splitMagnitude?_eq_some_iff.mpr ⟨present, ascii, rfl⟩
  have signed : readSigned bound reference (digits ++ [unit.letter]) tail =
      readPast bound reference (digits ++ [unit.letter]) tail := by
    unfold readSigned
    split
    · next opening =>
        cases digits with
        | nil => contradiction
        | cons c digits =>
            have digit : c.isDigit = true := ascii c List.mem_cons_self
            rcases List.cons.inj opening with ⟨rfl, _⟩
            contradiction
    · rfl
  rw [← appendDigits_zero]
  cases bound with
  | moreThan => simp [read, ageToken, Bound.sign, signed, readPast, split]
  | lessThan => simp [read, ageToken, Bound.sign, signed, readPast, split]

/-- Reading a test of ages is exact: it fails only where its amounts do not fit, and otherwise takes
its token and compares the count with the whole units in the age of a subject. -/
theorem read_age (present : digits ≠ []) (ascii : ∀ c ∈ digits, c.isDigit = true) (bound : Bound)
    (unit : TimeUnit) (reference : Instant) (tail : List String) :
    (bound.Fits (decimal digits) unit →
      ∃ test, read reference (ageToken bound digits unit :: tail) = .ok (test, tail) ∧
        ∀ subject, test.holds subject = true ↔
          0 ≤ reference.since subject ∧
            bound.Admits (unit.wholeUnits (reference.since subject)) (decimal digits)) ∧
    (¬bound.Fits (decimal digits) unit →
      ∃ error : ParseError, read reference (ageToken bound digits unit :: tail) = .error error ∧
        error.kind = .malformed) := by
  rw [read_ageToken present ascii]
  constructor
  · intro fits
    have counted : ¬limit < decimal digits := Nat.not_lt.mpr fits.1
    rw [if_neg counted, past?_of_fits fits]
    refine ⟨_, rfl, ?_⟩
    intro subject
    exact holds_past_iff
  · intro excess
    by_cases counted : limit < decimal digits
    · rw [if_pos counted]
      exact ⟨_, rfl, rfl⟩
    · rw [if_neg counted, past?_of_not_fits (Nat.not_lt.mp counted) excess]
      exact ⟨_, rfl, rfl⟩

theorem read_age_hours :
    ∃ test, read ⟨10800, 0⟩ ["+02h", "-size"] = .ok (test, ["-size"]) ∧
      test.holds ⟨0, 0⟩ = true ∧ test.holds ⟨0, 1⟩ = false := by
  have ascii : ∀ c ∈ ['0', '2'], c.isDigit = true := by simp
  have given := read_age (by decide) ascii .moreThan .hour ⟨10800, 0⟩ ["-size"]
  rcases given.1 (by decide) with ⟨test, answered, holds⟩
  refine ⟨test, answered, ?_, ?_⟩
  · rw [holds]
    decide
  · rw [← Bool.not_eq_true, holds]
    decide

end TimeTest
end EntryTree
