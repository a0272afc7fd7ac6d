import EntryTree.Query.Glob.Basic

/-!
# Matching glob patterns

Matching keeps what may be left of the subject after each part of the pattern. Leftovers are
suffixes of one subject, so they are told apart by their lengths alone, and whatever any sequence
of bytes can leave is left by the longest one. A subject matches if nothing may be left at the end.
-/

namespace EntryTree.Glob

/-- What may be left of a subject: suffixes of it, of different lengths. -/
abbrev Leftovers := List (List UInt8)

namespace Leftovers

/-- The longest leftover. -/
def longest? (leftovers : Leftovers) : Option (List UInt8) :=
  leftovers.foldl (fun longest bytes =>
    match longest with
    | none => some bytes
    | some other => if other.length < bytes.length then some bytes else some other) none

/-- All suffixes of a list of bytes, the longest first. -/
def suffixes : List UInt8 → Leftovers
  | [] => [[]]
  | byte :: bytes => (byte :: bytes) :: suffixes bytes

/-- What may be left after any bytes. -/
def afterAny (leftovers : Leftovers) : Leftovers :=
  match leftovers.longest? with
  | some bytes => suffixes bytes
  | none => []

/-- What may be left after one byte that satisfies a test. -/
def afterByte (accepted : UInt8 → Bool) (leftovers : Leftovers) : Leftovers :=
  leftovers.filterMap fun
    | byte :: bytes => if accepted byte then some bytes else none
    | [] => none

/-- What may be left after given bytes. -/
def afterBytes (expected : List UInt8) (leftovers : Leftovers) : Leftovers :=
  leftovers.filterMap (expected.isPrefixOf? ·)

/-- The leftovers of either list, without repetitions. -/
def union (left right : Leftovers) : Leftovers :=
  let lengths := left.map List.length
  left ++ right.filter fun bytes => !lengths.contains bytes.length

end Leftovers

/-- The byte that separates directories. -/
def separator : UInt8 := 47

/-- The bytes that encode a character. -/
def encoding (c : Char) : List UInt8 :=
  (String.singleton c).toUTF8.toList

/-- The intervals of bytes that an interval of characters stands for: the bytes of both ends, of
which the last of the first end and the first of the last end span an interval. -/
def byteIntervals (first last : Char) : List (UInt8 × UInt8) :=
  if first = last then (encoding first).map fun byte => (byte, byte)
  else
    let opening := encoding first
    let closing := encoding last
    opening.dropLast.map (fun byte => (byte, byte)) ++
      [(opening.getLast?.getD 0, closing.head?.getD 0)] ++
      closing.tail.map fun byte => (byte, byte)

/-- Whether a byte belongs to a class. -/
def inClass (intervals : List (Char × Char)) (byte : UInt8) : Bool :=
  intervals.any fun (first, last) =>
    (byteIntervals first last).any fun (low, high) => low ≤ byte && byte ≤ high

mutual

/-- Whether a part stands for nothing at all: alternatives of which none has any content. -/
def Part.isVoid : Part → Bool
  | .alternatives branches => areVoid branches
  | _ => false

/-- Whether all parts of a sequence stand for nothing. -/
def isVoid : List Part → Bool
  | [] => true
  | part :: parts => part.isVoid && isVoid parts

/-- Whether all sequences stand for nothing. -/
def areVoid : List (List Part) → Bool
  | [] => true
  | branch :: branches => isVoid branch && areVoid branches

end

mutual

/-- What may be left after a part. -/
def Part.after (leftovers : Leftovers) : Part → Leftovers
  | .literal c => leftovers.afterBytes (encoding c)
  | .anyByte => leftovers.afterByte fun _ => true
  | .anyBytes => leftovers.afterAny
  | .leadingLevels =>
    leftovers.union (leftovers.afterAny.afterByte (· == separator))
  | .trailingLevels => (leftovers.afterByte (· == separator)).afterAny
  | .innerLevels =>
    let below := leftovers.afterByte (· == separator)
    below.union (below.afterAny.afterByte (· == separator))
  | .oneOf negated intervals =>
    leftovers.afterByte fun byte => inClass intervals byte != negated
  | .alternatives branches =>
    if areVoid branches then leftovers else afterSome leftovers branches

/-- What may be left after a sequence of parts. -/
def after (leftovers : Leftovers) : List Part → Leftovers
  | [] => leftovers
  | part :: parts => after (part.after leftovers) parts

/-- What may be left after one of the sequences that have content. -/
def afterSome (leftovers : Leftovers) : List (List Part) → Leftovers
  | [] => []
  | branch :: branches =>
    if isVoid branch then afterSome leftovers branches
    else (after leftovers branch).union (afterSome leftovers branches)

end

/-- Whether a text matches a pattern. Levels of directories alone match everything. -/
def Pattern.matches (pattern : Pattern) (subject : String) : Bool :=
  match pattern with
  | [.leadingLevels] => true
  | _ => (after [subject.toUTF8.toList] pattern).any List.isEmpty

end EntryTree.Glob
