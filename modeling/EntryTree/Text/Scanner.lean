import EntryTree.Text.Blank
import EntryTree.Text.DecimalDigit

/-!
# Scanners

A scanner reads something off the front of a list of characters, or fails. The scanners here read
the parts that dates and times are written with: fixed characters, runs of digits of bounded
length, blanks, and fractions of a second.
-/

namespace EntryTree.Text

/-- Reads something off the front of a list of characters. -/
abbrev Scanner (α : Type) := StateT (List Char) Option α

namespace Scanner

/-- Reads one character that satisfies a test. -/
def charWhere (accepted : Char → Bool) : Scanner Char := fun chars =>
  match chars with
  | [] => none
  | c :: rest => if accepted c then some (c, rest) else none

/-- Reads one given character. -/
def char (expected : Char) : Scanner Unit := do
  let _ ← charWhere (· == expected)

/-- Skips characters as long as they satisfy a test. -/
def skipWhile (skipped : Char → Bool) : Scanner Unit := fun chars =>
  some ((), chars.dropWhile skipped)

/-- Skips blanks. -/
def blanks : Scanner Unit :=
  skipWhile isBlank

/-- Reads at most `limit` digits, as many as there are. -/
def digitsUpTo (limit : Nat) : Scanner (List Char) := fun chars =>
  let digits := (chars.take limit).takeWhile Char.isDigit
  some (digits, chars.drop digits.length)

/-- Reads a number of `least` to `most` digits. -/
def number (least most : Nat) : Scanner Nat := do
  let digits ← digitsUpTo most
  if least ≤ digits.length then pure (appendDigits 0 digits) else failure

/-- Reads a number of one digit or more. -/
def anyNumber : Scanner Nat := fun chars =>
  number 1 chars.length chars

/-- Reads a fraction of a second if there is one: a point and digits, of which nine count. The
result is in nanoseconds. -/
def fraction : Scanner Nat := fun chars =>
  match chars with
  | '.' :: rest =>
    let digits := rest.takeWhile Char.isDigit
    if digits.isEmpty then none
    else
      let counted := digits.take 9
      some (appendDigits 0 counted * Nat.pow 10 (9 - counted.length), rest.dropWhile Char.isDigit)
  | _ => some (0, chars)

/-- Reads a sign: plus, hyphen or the minus sign. True stands for minus. -/
def sign : Scanner Bool := do
  let c ← charWhere fun c => c == '+' || c == '-' || c == '\u2212'
  pure (c != '+')

/-- Reads everything with a scanner, which must leave nothing. -/
def readAll? {α : Type} (scanner : Scanner α) (chars : List Char) : Option α :=
  match scanner chars with
  | some (result, []) => some result
  | _ => none

end Scanner
end EntryTree.Text
