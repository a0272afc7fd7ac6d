import EntryTree.Halt
import EntryTree.Number.Binary64
import EntryTree.Text.Blank
import EntryTree.Text.DecimalDigit
import EntryTree.Text.Quoted
import EntryTree.Time.Span

/-!
# The notation of spans

A span is written as a sequence of components, each a number and a unit, as in `1h30m`, `1.5h` or
`2h 250ms`; a lone `0` is the empty span. The whole part of a component counts exactly. Its
fraction is read as a double, multiplied by the unit in double precision and rounded to the
nearest nanosecond, halves up. Components and sums are kept in words of 128 bits, and the span has
to fit a word of 64 bits in the end. What does not fit is refused, but for the sum of the two parts
of a component: nothing checks that it fits its word, and where it does not, the reader panics.
-/

namespace EntryTree.Span

open EntryTree.Text

/-- Why a text is not a span. -/
inductive Refusal
  | invalid
  | tooLarge
  deriving DecidableEq, Repr

/-- The wording of a refusal of a text. -/
def Refusal.message (text : String) : Refusal → String
  | .invalid => s!"invalid duration {quoted text}"
  | .tooLarge => s!"duration {quoted text} is too large"

/-- The units of components and their nanoseconds. The first that fits is taken. -/
def units : List (List Char × Nat) :=
  let second := nanosPerSecond
  [("ns".toList, 1), ("us".toList, 1000), ("µs".toList, 1000), ("μs".toList, 1000),
    ("ms".toList, 1000000), ("s".toList, second), ("m".toList, 60 * second),
    ("h".toList, 3600 * second), ("d".toList, 86400 * second), ("w".toList, 604800 * second)]

/-- A component of a span: digits before and behind the point, and the nanoseconds in its unit. -/
structure Component where
  whole : List Char
  fraction : List Char
  scale : Nat
  deriving DecidableEq, Repr

/-- The number at the front of a text: the digits before and behind a point, not both absent. -/
def number? (text : List Char) : Option (List Char × List Char × List Char) :=
  let whole := text.takeWhile isDecimalDigit
  let (fraction, rest) :=
    match text.dropWhile isDecimalDigit with
    | '.' :: rest => (rest.takeWhile isDecimalDigit, rest.dropWhile isDecimalDigit)
    | rest => ([], rest)
  if whole.isEmpty && fraction.isEmpty then none else some (whole, fraction, rest)

/-- The unit at the front of a text: its nanoseconds and what follows. -/
def unit? (text : List Char) : Option (Nat × List Char) :=
  units.findSome? fun (name, scale) => (name.isPrefixOf? text).map (scale, ·)

/-- The component at the front of a text and what follows it. -/
def component? (text : List Char) : Option (Component × List Char) := do
  let (whole, fraction, rest) ← number? (trimFront text)
  let (scale, rest) ← unit? (trimFront rest)
  some (⟨whole, fraction, scale⟩, rest)

/-- The bound of the words in which sums are kept. -/
def wideBound : Nat := 340282366920938463463374607431768211456

/-- The bound of the nanoseconds of a span. -/
def bound : Nat := 18446744073709551616

/-- The nanoseconds of a component. Only ASCII digits have a value. -/
def Component.nanos (component : Component) : Except (Halt Refusal) Nat := do
  let whole ←
    if component.whole.isEmpty then .ok 0
    else
      match natural? component.whole with
      | some whole => .ok whole
      | none => .error Refusal.tooLarge
  if wideBound ≤ whole || wideBound ≤ whole * component.scale then .error Refusal.tooLarge
  else if component.fraction.isEmpty then .ok (whole * component.scale)
  else
    match natural? component.fraction with
    | none => .error Refusal.invalid
    | some digits =>
      let fraction := Binary64.ofDecimal digits component.fraction.length
      let nanos := whole * component.scale + fraction.timesRounded component.scale
      if wideBound ≤ nanos then .error .overflow else .ok nanos

/-- Adds up the components of a text that follow a sum of nanoseconds. -/
def sumComponents (sum : Nat) (text : List Char) : Except (Halt Refusal) Nat :=
  if text.isEmpty then .ok sum
  else
    match component? text with
    | none => .error Refusal.invalid
    | some (component, rest) =>
      match component.nanos with
      | .error halt => .error halt
      | .ok nanos =>
        if wideBound ≤ sum + nanos then .error Refusal.tooLarge
        else if _shorter : (trimFront rest).length < text.length then
          sumComponents (sum + nanos) (trimFront rest)
        else .error Refusal.invalid
termination_by text.length

/-- Reads a span, ignoring blanks around it. -/
def parse (text : String) : Except (Halt Refusal) Span :=
  let chars := trim text.toList
  if chars = ['0'] then .ok ⟨0⟩
  else if chars.isEmpty then .error Refusal.invalid
  else
    match sumComponents 0 chars with
    | .error halt => .error halt
    | .ok nanos => if nanos < bound then .ok ⟨nanos⟩ else .error Refusal.tooLarge

end EntryTree.Span
