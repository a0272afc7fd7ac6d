import EntryTree.Text.Scanner
import EntryTree.Time.Instant

/-!
# RFC 3339

The internet's notation of instants. Reading accepts every offset below a day and either case of
the letters; writing uses universal time and as many digits of the second as are needed, in groups
of three.
-/

namespace EntryTree.Instant

open EntryTree.Text

/-- Reads an offset written with a colon, or a `Z`; the result is in seconds. -/
def rfc3339Offset : Scanner Int := fun chars =>
  match chars with
  | 'Z' :: rest => some (0, rest)
  | 'z' :: rest => some (0, rest)
  | _ => scan chars
where
  scan : Scanner Int := do
    let negative ← Scanner.sign
    let hours ← Scanner.number 2 2
    Scanner.char ':'
    let minutes ← Scanner.number 2 2
    if hours ≤ 23 ∧ minutes ≤ 59 then
      let size : Int := (hours * 60 + minutes) * 60
      pure (if negative then -size else size)
    else failure

/-- Reads a time on the wall and an offset in seconds. -/
def rfc3339 : Scanner (WallTime × Int) := do
  let year ← Scanner.number 4 4
  Scanner.char '-'
  let month ← Scanner.number 2 2
  Scanner.char '-'
  let day ← Scanner.number 2 2
  let _ ← Scanner.charWhere fun c => c == 'T' || c == 't' || c == ' '
  let hour ← Scanner.number 2 2
  Scanner.char ':'
  let minute ← Scanner.number 2 2
  Scanner.char ':'
  let second ← Scanner.number 2 2
  let nanos ← Scanner.fraction
  let offset ← rfc3339Offset
  pure (⟨⟨year, month, day⟩, hour, minute, second, nanos⟩, offset)

/-- Reads an instant. -/
def ofRfc3339? (chars : List Char) : Option Instant := do
  let (time, offset) ← rfc3339.readAll? chars
  time.instant? offset

/-- A number in decimal, with zeros in front up to a width. -/
def padded (width : Nat) (value : Nat) : String :=
  let digits := toString value
  String.ofList (List.replicate (width - digits.length) '0') ++ digits

/-- A year: four digits, or a sign and at least four digits outside of four-digit years. -/
def writeYear (year : Int) : String :=
  if 0 ≤ year ∧ year ≤ 9999 then padded 4 year.toNat
  else (if year < 0 then "-" else "+") ++ padded 4 year.natAbs

/-- A fraction of a second in nanoseconds, in the fewest groups of three digits that are exact. -/
def writeFraction (nanos : Nat) : String :=
  if nanos = 0 then ""
  else if nanos % 1000000 = 0 then "." ++ padded 3 (nanos / 1000000)
  else if nanos % 1000 = 0 then "." ++ padded 6 (nanos / 1000)
  else "." ++ padded 9 nanos

/-- Writes an instant in universal time. -/
def toRfc3339 (instant : Instant) : String :=
  let time := WallTime.ofInstant instant
  writeYear time.date.year ++ "-" ++ padded 2 time.date.month ++ "-" ++ padded 2 time.date.day ++
    "T" ++ padded 2 time.hour ++ ":" ++ padded 2 time.minute ++ ":" ++ padded 2 time.second ++
    writeFraction time.nanos ++ "Z"

end EntryTree.Instant
