import EntryTree.Expression.Reader
import EntryTree.Text.DecimalDigit

/-!
# Primaries over integers

A small stock of primaries whose subjects are integers: tests that take no argument, one or two,
an alternative, and primaries that refuse or swallow what they are given. They show every way in
which a primary can behave towards the expression around it.
-/

namespace EntryTree.Arithmetic

/-- A predicate on integers. -/
abbrev Test := Predicate Id Int

/-- Reads an integer of 64 bits: an optional sign and decimal digits. -/
def integer? (token : String) : Option Int := do
  let value : Int ←
    match token.toList with
    | '+' :: digits => (Text.natural? digits).map Int.ofNat
    | '-' :: digits => (Text.natural? digits).map fun size => -(size : Int)
    | digits => (Text.natural? digits).map Int.ofNat
  if -9223372036854775808 ≤ value ∧ value < 9223372036854775808 then some value else none

/-- Holds of even integers and takes no argument. -/
def even : Primary Test := fun tokens =>
  .ok (.atomic fun value => value % 2 == 0, tokens)

/-- Takes a bound and holds of what is greater. -/
def greater : Primary Test
  | [] => .error (.mismatch "expected a number")
  | token :: rest =>
    match integer? token with
    | none => .error (.malformed s!"{Text.quoted token} is not a number")
    | some bound => .ok (.atomic fun value => decide (bound < value), rest)

/-- Takes two bounds and holds of what is greater than the first but not than the second. -/
def between : Primary Test := fun tokens => do
  let (low, rest) ← greater tokens
  let (high, rest) ← (greater rest).mapError (·.shifted 1)
  .ok (low.and (.not high), rest)

/-- Takes the word `even`. -/
def evenWord : Primary Test
  | "even" :: rest => even rest
  | _ => .error (.mismatch "not even")

/-- Takes the word `even` or a bound. -/
def evenOrGreater : Primary Test :=
  .firstOf "expected an even marker or a bound" [evenWord, greater]

/-- Holds always and takes nothing. -/
def anything : Primary Test := fun tokens =>
  .ok (.always true, tokens)

/-- Holds never and takes everything. -/
def swallow : Primary Test := fun _ =>
  .ok (.always false, [])

/-- Fails at a token with an error of the kind given. -/
def refuse (kind : ParseError.Kind) (message : String) (position : Nat) : Primary Test := fun _ =>
  .error (.failure ⟨kind, message, position⟩)

end EntryTree.Arithmetic
