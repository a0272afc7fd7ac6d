/-!
# Spans and units of time

A span is a length of time in whole nanoseconds. Spans are bounded only where they are read.
-/

namespace EntryTree

/-- The nanoseconds in a second. -/
def nanosPerSecond : Nat := 1000000000

/-- A length of time. -/
structure Span where
  nanos : Nat
  deriving DecidableEq, Repr

namespace Span

/-- A span of whole seconds. -/
def ofSeconds (seconds : Nat) : Span :=
  ⟨seconds * nanosPerSecond⟩

/-- The whole seconds of a span. -/
def seconds (span : Span) : Nat :=
  span.nanos / nanosPerSecond

/-- What a span has beyond its whole seconds. -/
def subsecond (span : Span) : Nat :=
  span.nanos % nanosPerSecond

end Span

/-- The units in which an age is counted. -/
inductive TimeUnit
  | second
  | minute
  | hour
  | day
  | week
  deriving DecidableEq, Repr

namespace TimeUnit

/-- The letter that stands for a unit behind a count. -/
def ofSuffix? : List Char → Option TimeUnit
  | ['s'] => some .second
  | ['m'] => some .minute
  | ['h'] => some .hour
  | ['d'] => some .day
  | ['w'] => some .week
  | _ => none

/-- The seconds in a unit. -/
def seconds : TimeUnit → Nat
  | .second => 1
  | .minute => 60
  | .hour => 3600
  | .day => 86400
  | .week => 604800

/-- A unit as a span. -/
def span (unit : TimeUnit) : Span :=
  .ofSeconds unit.seconds

end TimeUnit
end EntryTree
