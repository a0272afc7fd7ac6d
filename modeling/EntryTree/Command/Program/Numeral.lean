/-!
# Numerals of programs

How programs read integers and decimals off their arguments, and how they write numbers in a field.
Integers are kept in 64 bits; decimals are rounded to a number of significant bits and written from
the exact value of what is left.
-/

namespace EntryTree.Command

/-- A number that was read off a text: what it is, whether it had to be clamped, and what is left
of the text. -/
structure Numeral (α : Type) where
  value : α
  clamped : Bool
  rest : List Char

namespace Numeral

/-- The value of a digit in bases up to thirty-six. -/
def digit? (base : Nat) (c : Char) : Option Nat :=
  let value :=
    if c.isDigit then c.toNat - '0'.toNat
    else if c.isLower then c.toNat - 'a'.toNat + 10
    else if c.isUpper then c.toNat - 'A'.toNat + 10
    else base
  if value < base then some value else none

/-- Reads digits behind a value; what is left. -/
def digits (base value : Nat) : List Char → Nat × List Char
  | [] => (value, [])
  | c :: rest =>
    match digit? base c with
    | some digit => digits base (base * value + digit) rest
    | none => (value, c :: rest)

/-- Whether a character is a blank in front of a number. -/
def isSpace (c : Char) : Bool :=
  c == ' ' || (9 ≤ c.toNat && c.toNat ≤ 13)

/-- Reads a natural number in the base that its beginning tells: sixteen, eight or ten. -/
def unsigned? : List Char → Option (Nat × List Char)
  | '0' :: x :: c :: rest =>
    if (x = 'x' || x = 'X') && (digit? 16 c).isSome then some (digits 16 0 (c :: rest))
    else some (digits 8 0 (x :: c :: rest))
  | '0' :: rest => some (digits 8 0 rest)
  | c :: rest => if c.isDigit then some (digits 10 0 (c :: rest)) else none
  | [] => none

/-- The least and the greatest integer of 64 bits. -/
def least : Int := -9223372036854775808

/-- The greatest integer of 64 bits. -/
def greatest : Int := 9223372036854775807

/-- The number of unsigned integers of 64 bits. -/
def modulus : Int := 18446744073709551616

/-- Splits the sign off a text behind blanks; true stands for minus. -/
def splitSign (text : List Char) : Bool × List Char :=
  match text.dropWhile isSpace with
  | '-' :: rest => (true, rest)
  | '+' :: rest => (false, rest)
  | rest => (false, rest)

/-- Reads an integer; without one, zero and the whole text. -/
def integer (text : List Char) : Numeral Int :=
  let (negative, front) := splitSign text
  match unsigned? front with
  | none => ⟨0, false, text⟩
  | some (size, rest) =>
    let value : Int := if negative then -size else size
    if value < least then ⟨least, true, rest⟩
    else if greatest < value then ⟨greatest, true, rest⟩
    else ⟨value, false, rest⟩

/-- Reads an unsigned integer, of which negative ones are counted from the end. -/
def natural (text : List Char) : Numeral Int :=
  let (negative, front) := splitSign text
  match unsigned? front with
  | none => ⟨0, false, text⟩
  | some (size, rest) =>
    if modulus ≤ size then ⟨modulus - 1, true, rest⟩
    else ⟨(if negative then -(size : Int) else size) % modulus, false, rest⟩

end Numeral

/-- A number that is not negative, as a quotient, and its sign. -/
structure Quotient where
  negative : Bool
  numerator : Nat
  denominator : Nat

namespace Quotient

/-- The quotient of two numbers, rounded to the nearest integer, a tie to the even one. -/
def rounded (numerator denominator : Nat) : Nat :=
  let quotient := numerator / denominator
  let twice := 2 * (numerator % denominator)
  if twice < denominator || (twice = denominator && quotient % 2 = 0) then quotient
  else quotient + 1

/-- Rounds to a number of significant bits. -/
def toBits (bits : Nat) (value : Quotient) : Quotient :=
  if value.numerator = 0 then value
  else
    let size : Int := (value.numerator.log2 : Int) - value.denominator.log2
    let shift : Int := bits - size
    let numerator := value.numerator * Nat.pow 2 shift.toNat
    let denominator := value.denominator * Nat.pow 2 (-shift).toNat
    let whole := numerator / denominator
    let extra := whole.log2 + 1 - bits
    let result := rounded numerator (denominator * Nat.pow 2 extra) * Nat.pow 2 extra
    ⟨value.negative, result * Nat.pow 2 (-shift).toNat, Nat.pow 2 shift.toNat⟩

/-- The exponents that are taken at their word. -/
def exponentLimit : Nat := 4000

/-- Reads a decimal; without one, zero and the whole text. -/
def read (text : List Char) : Numeral Quotient :=
  let (negative, front) := Numeral.splitSign text
  let whole := front.takeWhile Char.isDigit
  let behind := front.dropWhile Char.isDigit
  let (fraction, behind) :=
    match behind with
    | '.' :: rest => (rest.takeWhile Char.isDigit, rest.dropWhile Char.isDigit)
    | _ => ([], behind)
  if whole.isEmpty && fraction.isEmpty then ⟨⟨false, 0, 1⟩, false, text⟩
  else
    let (exponent, behind) := exponent? behind
    let digits := (Numeral.digits 10 0 (whole ++ fraction)).1
    let scale : Int := exponent - fraction.length
    let scale : Int := max (-exponentLimit) (min exponentLimit scale)
    ⟨⟨negative, digits * Nat.pow 10 scale.toNat, Nat.pow 10 (-scale).toNat⟩, false, behind⟩
where
  exponent? (text : List Char) : Int × List Char :=
    match text with
    | e :: rest =>
      if e = 'e' || e = 'E' then
        let (negative, digits) :=
          match rest with
          | '-' :: digits => (true, digits)
          | '+' :: digits => (false, digits)
          | digits => (false, digits)
        if (digits.head?.map Char.isDigit).getD false then
          let size := (Numeral.digits 10 0 (digits.takeWhile Char.isDigit)).1
          (if negative then -(size : Int) else size, digits.dropWhile Char.isDigit)
        else (0, text)
      else (0, text)
    | [] => (0, text)

/-- The digits with a number of places behind the point. -/
def fixed (value : Quotient) (places : Nat) (point : Bool) : String :=
  let digits := toString (rounded (value.numerator * Nat.pow 10 places) value.denominator)
  let padded := "".pushn '0' (places + 1 - digits.length) ++ digits
  let whole := padded.toList.take (padded.length - places)
  let fraction := padded.toList.drop (padded.length - places)
  String.ofList whole ++ (if places = 0 && !point then "" else "." ++ String.ofList fraction)

/-- The power of ten of the leading digit. -/
def magnitude (value : Quotient) : Int :=
  if value.numerator = 0 then 0
  else if value.denominator ≤ value.numerator then
    (toString (value.numerator / value.denominator)).length - 1
  else
    let guess := (toString (value.denominator / value.numerator)).length
    if value.denominator ≤ value.numerator * Nat.pow 10 (guess - 1) then 1 - (guess : Int)
    else -(guess : Int)

/-- The leading digits, of which there are as many as places and one, and the power of ten of the
first. -/
def leading (value : Quotient) (places : Nat) : Nat × Int :=
  let magnitude := value.magnitude
  let scale : Int := places - magnitude
  let digits :=
    rounded (value.numerator * Nat.pow 10 scale.toNat)
      (value.denominator * Nat.pow 10 (-scale).toNat)
  if Nat.pow 10 (places + 1) ≤ digits then (digits / 10, magnitude + 1) else (digits, magnitude)

/-- The digits with one in front of the point, and the power of ten. -/
def scientific (value : Quotient) (places : Nat) (point upper : Bool) : String :=
  let (digits, magnitude) := value.leading places
  let text := toString digits
  let size := toString magnitude.natAbs
  String.ofList (text.toList.take 1) ++
    (if places = 0 && !point then "" else "." ++ String.ofList (text.toList.drop 1) ++
      "".pushn '0' (places + 1 - text.length)) ++
    (if upper then "E" else "e") ++ (if magnitude < 0 then "-" else "+") ++
    "".pushn '0' (2 - size.length) ++ size

/-- A text without zeros at the end of its fraction. -/
def dropZeros (text : String) : String :=
  if text.contains '.' then
    let reversed := text.toList.reverse.dropWhile (· == '0')
    String.ofList (if reversed.head? = some '.' then reversed.tail else reversed).reverse
  else text

/-- The shorter of both forms, with a number of significant digits. -/
def general (value : Quotient) (precision : Nat) (point upper : Bool) : String :=
  let precision := max precision 1
  let (_, magnitude) := value.leading (precision - 1)
  if -4 ≤ magnitude && magnitude < precision then
    let text := value.fixed (precision - 1 - magnitude).toNat point
    if point then text else dropZeros text
  else
    let text := value.scientific (precision - 1) point upper
    if point then text
    else
      let front := text.toList.takeWhile fun c => c != 'e' && c != 'E'
      dropZeros (String.ofList front) ++ String.ofList (text.toList.drop front.length)

end Quotient

/-- How a number is put into its field. -/
structure Field where
  left : Bool := false
  plus : Bool := false
  space : Bool := false
  zeros : Bool := false
  alternate : Bool := false
  width : Nat := 0
  precision : Option Nat := none

namespace Field

/-- Fills a text up to the width with spaces. -/
def pad (field : Field) (text : String) : String :=
  let missing := field.width - text.length
  if field.left then text.pushn ' ' missing else "".pushn ' ' missing ++ text

/-- Puts a sign and digits into the field. -/
def number (field : Field) (sign digits : String) (zeros : Bool) : String :=
  if zeros && !field.left then
    sign ++ "".pushn '0' (field.width - sign.length - digits.length) ++ digits
  else field.pad (sign ++ digits)

/-- The sign of a number. -/
def sign (field : Field) (negative : Bool) : String :=
  if negative then "-" else if field.plus then "+" else if field.space then " " else ""

/-- Puts an integer into the field. -/
def integer (field : Field) (letter : Char) (value : Int) : String :=
  let base := if letter = 'o' then 8 else if letter = 'x' || letter = 'X' then 16 else 10
  let digits := String.ofList (Nat.toDigits base value.natAbs)
  let digits := if letter = 'X' then digits.toUpper else digits
  let digits := if field.precision = some 0 && value = 0 then "" else digits
  let digits := "".pushn '0' (field.precision.getD 0 - digits.length) ++ digits
  let led := letter = 'o' && field.alternate && !digits.startsWith "0"
  let digits := if led then "0" ++ digits else digits
  let mark :=
    if field.alternate && value != 0 && base = 16 then (if letter = 'X' then "0X" else "0x") else ""
  let sign := if letter = 'd' || letter = 'i' then field.sign (value < 0) else ""
  field.number (sign ++ mark) digits (field.zeros && field.precision.isNone)

/-- Puts a decimal into the field. -/
def decimal (field : Field) (letter : Char) (value : Quotient) : String :=
  let precision := field.precision.getD 6
  let upper := letter.isUpper
  let digits :=
    if letter = 'f' || letter = 'F' then value.fixed precision field.alternate
    else if letter = 'e' || letter = 'E' then value.scientific precision field.alternate upper
    else value.general precision field.alternate upper
  field.number (field.sign value.negative) digits field.zeros

/-- Puts a text into the field, cut to the precision. -/
def text (field : Field) (text : String) : String :=
  field.pad (match field.precision with
    | some precision => String.ofList (text.toList.take precision)
    | none => text)

end Field
end EntryTree.Command
