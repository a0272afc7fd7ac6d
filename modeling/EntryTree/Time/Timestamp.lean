import EntryTree.Time.Rfc3339

/-!
# Timestamps

The notations of an instant that metadata uses. Besides RFC 3339 these are a date and a time that
are separated by blanks or a `T` and followed either by `UTC` or by an offset without a colon,
behind which the abbreviation of a zone may stand. Numbers need not be padded, and blanks are
skipped in front of them.

Attributes are written in RFC 3339 and read with the same tolerance: blanks may stand before every
number, separator and offset, and universal time may be called by its name.
-/

namespace EntryTree.Instant

open EntryTree.Text

/-- Reads a number of one or two digits after blanks. -/
def shortField : Scanner Nat := do
  Scanner.blanks
  Scanner.number 1 2

/-- Reads a year after blanks: up to four digits, or any number of them behind a sign. -/
def yearField : Scanner Int := do
  Scanner.blanks
  fun chars =>
    match chars with
    | '-' :: rest => ((fun year : Nat => (-year : Int)) <$> Scanner.anyNumber) rest
    | '+' :: rest => (Int.ofNat <$> Scanner.anyNumber) rest
    | _ => (Int.ofNat <$> Scanner.number 1 4) chars

/-- Reads a date, what separates it from the time, and the time. `gap` reads what may stand before
a hyphen or a colon. -/
def wallTime (gap separator : Scanner Unit) : Scanner WallTime := do
  let year ← yearField
  gap
  Scanner.char '-'
  let month ← shortField
  gap
  Scanner.char '-'
  let day ← shortField
  separator
  let hour ← shortField
  gap
  Scanner.char ':'
  let minute ← shortField
  gap
  Scanner.char ':'
  let second ← shortField
  let nanos ← Scanner.fraction
  pure ⟨⟨year, month, day⟩, hour, minute, second, nanos⟩

/-- Reads an offset after blanks: a sign, hours, any colons and blanks, minutes. The result is in
seconds and less than a day. -/
def plainOffset : Scanner Int := do
  Scanner.blanks
  let negative ← Scanner.sign
  let hours ← Scanner.number 2 2
  Scanner.skipWhile fun c => c == ':' || isBlank c
  let minutes ← Scanner.number 2 2
  if hours ≤ 23 ∧ minutes ≤ 59 then
    let size : Int := (hours * 60 + minutes) * 60
    pure (if negative then -size else size)
  else failure

/-- What may stand between a date and a time: blanks or a `T`. -/
def separators : List (Scanner Unit) :=
  [Scanner.blanks, Scanner.char 'T']

/-- The text in front of a suffix. -/
def dropSuffix? (suffix text : List Char) : Option (List Char) :=
  (suffix.reverse.isPrefixOf? text.reverse).map List.reverse

/-- The text without a word of ASCII letters behind its last space. -/
def dropZoneWord (text : List Char) : List Char :=
  let reversed := text.reverse
  let word := reversed.takeWhile (· != ' ')
  match reversed.dropWhile (· != ' ') with
  | ' ' :: front => if word.all Char.isAlpha then front.reverse else text
  | _ => text

/-- Reads a timestamp that ends in `UTC`. -/
def ofUniversal? (text : List Char) : Option Instant := do
  let front ← dropSuffix? " UTC".toList text
  separators.findSome? fun separator => do
    let time ← (wallTime (pure ()) separator).readAll? front
    time.instant? 0

/-- Reads a timestamp that ends in an offset. -/
def ofOffset? (text : List Char) : Option Instant :=
  separators.findSome? fun separator => do
    let (time, offset) ← Scanner.readAll? (do
      let time ← wallTime (pure ()) separator
      let offset ← plainOffset
      pure (time, offset)) text
    time.instant? offset

/-- Reads a timestamp in any of its notations, ignoring blanks around it. -/
def ofTimestamp? (text : String) : Option Instant :=
  let chars := trim text.toList
  (ofRfc3339? chars).orElse fun _ =>
    (ofUniversal? chars).orElse fun _ => ofOffset? (dropZoneWord chars)

/-- Reads `UTC` in either case. -/
def universalName : Scanner Unit := do
  let _ ← Scanner.charWhere fun c => c == 'U' || c == 'u'
  let _ ← Scanner.charWhere fun c => c == 'T' || c == 't'
  let _ ← Scanner.charWhere fun c => c == 'C' || c == 'c'

/-- Reads an offset after blanks, or what stands for universal time. -/
def tolerantOffset : Scanner Int := do
  Scanner.blanks
  (do universalName; pure 0) <|>
    (do let _ ← Scanner.charWhere fun c => c == 'Z' || c == 'z'; pure 0) <|>
    plainOffset

/-- Reads a time on the wall and an offset in seconds, with blanks where they do no harm. -/
def tolerant : Scanner (WallTime × Int) := do
  let time ← wallTime Scanner.blanks do
    let _ ← Scanner.charWhere fun c => c == 'T' || c == 't' || c == ' '
  let offset ← tolerantOffset
  Scanner.blanks
  pure (time, offset)

/-- Reads an instant as attributes have it. -/
def ofTolerant? (chars : List Char) : Option Instant := do
  let (time, offset) ← tolerant.readAll? chars
  time.instant? offset

end EntryTree.Instant
