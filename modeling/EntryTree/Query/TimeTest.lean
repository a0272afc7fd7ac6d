import EntryTree.Expression.Primary
import EntryTree.Json.Basic
import EntryTree.Predicate
import EntryTree.Time.SpanNotation
import EntryTree.Time.Timestamp

/-!
# Temporal tests

```
test := ("+" | "-") (digits unit | "\x7b" span "\x7d")
unit := "s" | "m" | "h" | "d" | "w"
```

Without braces a test asks how long before the reference an instant was, in whole units; with
braces it asks how long after the reference it will be, exactly. An instant on the other side of
the reference never passes, and neither does the reference itself pass a test of the second form.
-/

namespace EntryTree

open Text

/-- Whether a test wants more or less than its amount. -/
inductive Bound
  | moreThan
  | lessThan
  deriving DecidableEq, Repr

/-- What a temporal test measures. -/
inductive Extent
  /-- Backwards from the reference, in whole units. -/
  | past (count : Nat) (unit : TimeUnit)
  /-- Forwards from the reference. -/
  | future (span : Span)
  deriving DecidableEq, Repr

/-- A test of instants against a reference. -/
structure TimeTest where
  bound : Bound
  extent : Extent
  reference : Instant
  deriving DecidableEq, Repr

namespace TimeTest

/-- The largest number of seconds and the largest count that a test can hold. -/
def limit : Nat := 18446744073709551615

/-- The count of units that an age must reach or stay under. An age that exceeds a count by a part
of a unit already counts as more. -/
def reach (bound : Bound) (count : Nat) : Nat :=
  match bound with
  | .moreThan => count + 1
  | .lessThan => count

/-- A test of ages, if its amounts can be held. -/
def past? (bound : Bound) (count : Nat) (unit : TimeUnit) (reference : Instant) :
    Except ParseError TimeTest :=
  if reach bound count ≤ limit ∧ reach bound count * unit.seconds ≤ limit then
    .ok ⟨bound, .past count unit, reference⟩
  else .error (.malformed s!"magnitude {count} is too large")

/-- A test of times to come. -/
def future (bound : Bound) (span : Span) (reference : Instant) : TimeTest :=
  ⟨bound, .future span, reference⟩

/-- The amount that was asked for. -/
def magnitude (test : TimeTest) : Span :=
  match test.extent with
  | .past count unit => .ofSeconds (count * unit.seconds)
  | .future span => span

/-- The unit that ages are counted in. -/
def unit? (test : TimeTest) : Option TimeUnit :=
  match test.extent with
  | .past _ unit => some unit
  | .future _ => none

/-- Whether an instant passes a test. -/
def holds (test : TimeTest) (subject : Instant) : Bool :=
  match test.extent with
  | .past count unit =>
    let elapsed := test.reference.since subject
    let threshold := (Span.ofSeconds (reach test.bound count * unit.seconds)).nanos
    0 ≤ elapsed &&
      match test.bound with
      | .moreThan => (threshold : Int) ≤ elapsed
      | .lessThan => elapsed < (threshold : Int)
  | .future span =>
    let remaining := subject.since test.reference
    0 < remaining &&
      match test.bound with
      | .moreThan => (span.nanos : Int) < remaining
      | .lessThan => remaining < (span.nanos : Int)

/-- Splits a count from the unit behind it. -/
def splitMagnitude? (text : List Char) : Option (List Char × TimeUnit) :=
  let digits := text.takeWhile Char.isDigit
  if digits.isEmpty then none
  else (TimeUnit.ofSuffix? (text.dropWhile Char.isDigit)).map (digits, ·)

/-- Collects the text up to a closing brace, which has to end its token. Tokens are joined by
single spaces. The result is the text and the tokens behind the one that closes; `index` is the
place of `piece` among the tokens. -/
def braced (index : Nat) (piece : List Char) (more : List String) :
    Except ParseError (List Char × List String) :=
  match piece.dropWhile (· != '\x7d') with
  | [_] => .ok (piece.takeWhile (· != '\x7d'), more)
  | _ :: trailing =>
    let shown := quoted (String.ofList trailing)
    .error ((ParseError.malformed s!"unexpected {shown} after closing brace").atToken index)
  | [] =>
    match more with
    | [] => .error (.malformed "expected a closing brace")
    | next :: more =>
      (braced (index + 1) next.toList more).map fun (text, rest) => (piece ++ ' ' :: text, rest)

/-- Reads the braced form behind its opening brace. -/
def readFuture (bound : Bound) (reference : Instant) (piece : List Char) (more : List String) :
    Except (Halt ParseError) (TimeTest × List String) := do
  let (text, rest) ← Halt.lift (braced 0 piece more)
  let text := trim text
  if text.isEmpty then .error (.malformed "expected a duration inside the braces")
  else
    let text := String.ofList text
    match Span.parse text with
    | .ok span => .ok (future bound span reference, rest)
    | .error halt => .error (halt.map fun refusal => .malformed (refusal.message text))

/-- Reads the form without braces behind its sign. -/
def readPast (bound : Bound) (reference : Instant) (text : List Char) (more : List String) :
    Except (Halt ParseError) (TimeTest × List String) :=
  match splitMagnitude? text with
  | none => .error (.mismatch "expected a duration")
  | some (digits, unit) =>
    let count := appendDigits 0 digits
    if limit < count then .error (.malformed s!"{String.ofList digits} is too large")
    else (Halt.lift (past? bound count unit reference)).map (·, more)

/-- Reads what follows a sign. -/
def readSigned (bound : Bound) (reference : Instant) (text : List Char) (more : List String) :
    Except (Halt ParseError) (TimeTest × List String) :=
  match text with
  | '\x7b' :: piece => readFuture bound reference piece more
  | _ => readPast bound reference text more

/-- Reads a temporal test off the front of a token list. A count without a sign is a mistake; any
other token without a sign is not a temporal test. -/
def read (reference : Instant) : Primary TimeTest
  | [] => .error (.mismatch "expected a sign or a digit")
  | token :: more =>
    match token.toList with
    | '+' :: text => readSigned .moreThan reference text more
    | '-' :: text => readSigned .lessThan reference text more
    | c :: text =>
      if !c.isDigit then .error (.mismatch "expected a sign or a digit")
      else if (splitMagnitude? (c :: text)).isSome then
        .error (.malformed s!"expected a + or - before {token}")
      else .error (.mismatch "expected a duration")
    | [] => .error (.mismatch "expected a sign or a digit")

/-- The primary on subjects that may have an instant; a subject without one fails every test. -/
def primary {α : Type} (reference : Instant) (instant? : α → Option Instant) :
    Primary (Predicate Id α) :=
  Primary.map (read reference) fun test =>
    .atomic fun subject =>
      match instant? subject with
      | some instant => test.holds instant
      | none => false

end TimeTest

/-- The instant that a JSON value stands for, if it is a timestamp. -/
def Json.instant? (value : Json) : Option Instant :=
  value.text?.bind Instant.ofTimestamp?

end EntryTree
