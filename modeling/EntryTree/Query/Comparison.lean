import EntryTree.Expression.Primary
import EntryTree.Json.Basic
import EntryTree.Predicate
import EntryTree.Text.DecimalDigit

/-!
# Numeric comparisons

A sign in front of an amount asks for more (`+`) or less (`-`) than it; an amount alone asks for
exactly that. Amounts are numbers with an optional fraction, compared in double precision, or
sizes: a count of bytes or of a unit, compared exactly.
-/

namespace EntryTree

open Text

/-- How a value has to relate to an amount. -/
inductive Comparison
  | greater
  | less
  | equal
  deriving DecidableEq, Repr

namespace Comparison

/-- Splits the sign from an amount. -/
def split : List Char → Comparison × List Char
  | '+' :: amount => (.greater, amount)
  | '-' :: amount => (.less, amount)
  | amount => (.equal, amount)

/-- Whether a value relates to an amount in this way, on a scale of integers. -/
def holds (comparison : Comparison) (value amount : Int) : Bool :=
  match comparison with
  | .greater => amount < value
  | .less => value < amount
  | .equal => value = amount

end Comparison

/-! ### Numbers -/

/-- The digits before and behind the point of a number: both, or one of them without the other and
without a point behind it. -/
def numberParts? (text : List Char) : Option (List Char × List Char) :=
  let whole := text.takeWhile isDecimalDigit
  match text.dropWhile isDecimalDigit with
  | [] => if whole.isEmpty then none else some (whole, [])
  | '.' :: fraction =>
    if !fraction.isEmpty && fraction.all isDecimalDigit then some (whole, fraction) else none
  | _ => none

/-- The double that a number denotes; only ASCII digits have a value. -/
def numberValue? (whole fraction : List Char) : Option Binary64 :=
  (natural? (whole ++ fraction)).map fun digits => .ofDecimal digits fraction.length

/-- A comparison with a number. What is not a number is a mismatch. -/
def numericComparison : Primary (Predicate Id Json)
  | [] => .error (.mismatch "expected a number")
  | token :: rest =>
    let (comparison, amount) := Comparison.split token.toList
    match numberParts? amount with
    | none => .error (.mismatch "expected a number")
    | some (whole, fraction) =>
      match numberValue? whole fraction with
      | none => .error (.malformed s!"{quoted token} is not a number")
      | some amount =>
        .ok (.atomic fun value =>
          match value.number? with
          | some number => comparison.holds number.toBinary64.order amount.order
          | none => false, rest)

/-! ### Sizes -/

/-- The bytes in the unit that a suffix stands for. -/
def sizeUnit? : List Char → Option Nat
  | [] => some 1
  | ['c'] => some 1
  | ['k'] => some 1024
  | ['M'] => some 1048576
  | ['G'] => some 1073741824
  | ['T'] => some 1099511627776
  | ['P'] => some 1125899906842624
  | _ => none

/-- The largest size. -/
def maxSize : Nat := 18446744073709551615

/-- A comparison with a size. Only ASCII digits have a value. -/
def sizeComparison : Primary (Predicate Id Nat)
  | [] => .error (.mismatch "expected a size")
  | token :: rest =>
    let (comparison, amount) := Comparison.split token.toList
    let digits := amount.takeWhile isDecimalDigit
    match sizeUnit? (amount.dropWhile isDecimalDigit) with
    | none => .error (.malformed s!"{quoted token} is not a valid size")
    | some unit =>
      if digits.isEmpty then .error (.malformed s!"{quoted token} is not a valid size")
      else
        match natural? digits with
        | none => .error (.malformed s!"size {token} is too large")
        | some count =>
          if maxSize < count ∨ maxSize < count * unit then
            .error (.malformed s!"size {token} is too large")
          else .ok (.atomic fun size => comparison.holds size ((count * unit : Nat) : Int), rest)

end EntryTree
