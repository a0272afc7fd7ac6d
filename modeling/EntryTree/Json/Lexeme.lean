import EntryTree.Json.Basic
import EntryTree.Text.DecimalDigit

/-!
# JSON lexemes

The words of a JSON document. A text is well formed as a word even if it escapes half of a
surrogate pair, and a number even if it is too large for a double; such words have no value, which
matters only to a reader that looks at them.

The significant digits of a number that is not an integer are kept as long as they fit 64 bits.
Later digits before the point only scale it, and later ones after the point are dropped. The
digits and the power of ten are rounded to doubles separately before they are combined.
-/

namespace EntryTree.Json

/-- A word of a JSON document. -/
inductive Lexeme
  | openObject
  | closeObject
  | openArray
  | closeArray
  | comma
  | colon
  | null
  | bool (value : Bool)
  | number (value : Option Number)
  | text (value : Option String)
  deriving DecidableEq, Repr

/-! ### Numbers -/

/-- The largest unsigned word of 64 bits. -/
def maxWord : Nat := 18446744073709551615

/-- Takes digits into a significand while it fits a word; the digits that are left. -/
def takeSignificant (significand : Nat) : List Char → Nat × List Char
  | [] => (significand, [])
  | digit :: digits =>
    let longer := 10 * significand + Text.digitValue digit
    if longer ≤ maxWord then takeSignificant longer digits else (significand, digit :: digits)

/-- The largest power of ten that is rounded as a whole. -/
def maxPower : Nat := 308

/-- Divides quanta by a power of ten, in steps of at most `maxPower` places. -/
def unscale (quanta places : Nat) : Nat :=
  if places ≤ maxPower then
    Binary64.nearestQuanta (quanta * Binary64.unity)
      (Binary64.nearestQuanta (Nat.pow 10 places * Binary64.unity) 1)
  else if quanta = 0 then 0
  else
    unscale (Binary64.nearestQuanta (quanta * Binary64.unity)
      (Binary64.nearestQuanta (Nat.pow 10 maxPower * Binary64.unity) 1)) (places - maxPower)
termination_by places
decreasing_by simp only [maxPower] at *; omega

/-- The quanta of a significand times a power of ten, if they are finite. -/
def scaled? (significand : Nat) (exponent : Int) : Option Nat :=
  let quanta := Binary64.nearestQuanta (significand * Binary64.unity) 1
  match exponent with
  | .ofNat power =>
    if quanta = 0 then some 0
    else if maxPower < power then none
    else
      let factor := Binary64.nearestQuanta (Nat.pow 10 power * Binary64.unity) 1
      let product := Binary64.nearestQuanta (quanta * factor) Binary64.unity
      if product < Binary64.overflow then some product else none
  | .negSucc places => some (unscale quanta (places + 1))

/-- The number written with these digits before and after the point and this exponent. -/
def numberOf? (negative : Bool) (whole fraction : List Char) (exponent : Int) : Option Number :=
  let (significand, unread) := takeSignificant 0 whole
  let (significand, dropped) := takeSignificant significand fraction
  let places := fraction.length - dropped.length
  (scaled? significand (exponent + unread.length - places)).map fun quanta =>
    .real (.finite negative quanta)

/-- The number written with these digits alone. A zero with a sign is a double. -/
def wholeNumber? (negative : Bool) (digits : List Char) : Option Number :=
  let value := Text.appendDigits 0 digits
  if !negative && value ≤ maxWord then some (.integer value)
  else if negative && 0 < value && value ≤ 9223372036854775808 then some (.integer (-value))
  else numberOf? negative digits [] 0

/-- Splits off the decimal digits at the front. -/
def digitRun (chars : List Char) : List Char × List Char :=
  (chars.takeWhile Char.isDigit, chars.dropWhile Char.isDigit)

/-- Reads the exponent part of a number, which ends it. -/
def exponent? : List Char → Option Int
  | '+' :: digits => (Text.natural? digits).map Int.ofNat
  | '-' :: digits => (Text.natural? digits).map fun size => -(size : Int)
  | digits => (Text.natural? digits).map Int.ofNat

/-- Reads the characters of one number. The outer `Option` says whether they form a number, the
inner one whether it has a value. -/
def numeral? (chars : List Char) : Option (Option Number) :=
  let (negative, chars) :=
    match chars with
    | '-' :: chars => (true, chars)
    | chars => (false, chars)
  let (whole, rest) := digitRun chars
  if whole.isEmpty || (whole.length ≠ 1 && whole.head? = some '0') then none
  else
    match rest with
    | [] => some (wholeNumber? negative whole)
    | '.' :: rest =>
      let (fraction, rest) := digitRun rest
      if fraction.isEmpty then none
      else
        match rest with
        | [] => some (numberOf? negative whole fraction 0)
        | 'e' :: rest | 'E' :: rest => (exponent? rest).map (numberOf? negative whole fraction)
        | _ => none
    | 'e' :: rest | 'E' :: rest => (exponent? rest).map (numberOf? negative whole [])
    | _ => none

/-- Whether a character can occur in a number. -/
def isNumberChar (c : Char) : Bool :=
  c.isDigit || c == '-' || c == '+' || c == '.' || c == 'e' || c == 'E'

/-! ### Texts -/

/-- The value of a hexadecimal digit. -/
def hexDigit? (c : Char) : Option Nat :=
  if c.isDigit then some (c.toNat - '0'.toNat)
  else if 'a' ≤ c && c ≤ 'f' then some (c.toNat - 'a'.toNat + 10)
  else if 'A' ≤ c && c ≤ 'F' then some (c.toNat - 'A'.toNat + 10)
  else none

/-- The code unit that four hexadecimal digits denote. -/
def codeUnit? (a b c d : Char) : Option Nat := do
  let a ← hexDigit? a
  let b ← hexDigit? b
  let c ← hexDigit? c
  let d ← hexDigit? d
  some (((a * 16 + b) * 16 + c) * 16 + d)

/-- The character that a one-letter escape stands for. -/
def shortEscape? : Char → Option Char
  | '"' => some '"'
  | '\\' => some '\\'
  | '/' => some '/'
  | 'b' => some '\x08'
  | 'f' => some '\x0c'
  | 'n' => some '\n'
  | 'r' => some '\r'
  | 't' => some '\t'
  | _ => none

/-- Reads the characters of a text up to its closing quote: the code units and what follows. -/
def textUnits? : List Char → Option (List Nat × List Char)
  | [] => none
  | '"' :: rest => some ([], rest)
  | '\\' :: 'u' :: a :: b :: c :: d :: rest => do
      let unit ← codeUnit? a b c d
      let (units, rest) ← textUnits? rest
      some (unit :: units, rest)
  | '\\' :: c :: rest => do
      let escaped ← shortEscape? c
      let (units, rest) ← textUnits? rest
      some (escaped.toNat :: units, rest)
  | c :: rest =>
      if c.toNat < 0x20 || c = '\\' then none
      else do
        let (units, rest) ← textUnits? rest
        some (c.toNat :: units, rest)

theorem length_textUnits? {chars rest : List Char} {units : List Nat}
    (read : textUnits? chars = some (units, rest)) : rest.length ≤ chars.length := by
  induction chars using textUnits?.induct generalizing units rest with
  | case1 => simp [textUnits?] at read
  | case2 => simp [textUnits?] at read; simp [read]
  | case3 a b c d tail ih =>
      simp only [textUnits?, bind, Option.bind_eq_some_iff] at read
      obtain ⟨unit, -, ⟨more, left⟩, tailRead, same⟩ := read
      simp only [Option.some.injEq, Prod.mk.injEq] at same
      have := ih tailRead
      simp only [List.length_cons, ← same.2]
      omega
  | case4 c tail notUnicode ih =>
      rw [textUnits?.eq_4 _ _ notUnicode] at read
      simp only [bind, Option.bind_eq_some_iff] at read
      obtain ⟨escaped, -, ⟨more, left⟩, tailRead, same⟩ := read
      simp only [Option.some.injEq, Prod.mk.injEq] at same
      have := ih tailRead
      simp only [List.length_cons, ← same.2]
      omega
  | case5 c tail notQuote notUnicode notShort refused =>
      rw [textUnits?.eq_5 _ _ notQuote notUnicode notShort, if_pos refused] at read
      cases read
  | case6 c tail notQuote notUnicode notShort accepted ih =>
      rw [textUnits?.eq_5 _ _ notQuote notUnicode notShort, if_neg accepted] at read
      simp only [bind, Option.bind_eq_some_iff] at read
      obtain ⟨⟨more, left⟩, tailRead, same⟩ := read
      simp only [Option.some.injEq, Prod.mk.injEq] at same
      have := ih tailRead
      simp only [List.length_cons, ← same.2]
      omega

/-- The characters that code units stand for; half a surrogate pair stands for none. -/
def characters? : List Nat → Option (List Char)
  | [] => some []
  | unit :: units =>
    if 0xD800 ≤ unit && unit < 0xDC00 then
      match units with
      | low :: units =>
        if 0xDC00 ≤ low && low < 0xE000 then
          (characters? units).map
            (Char.ofNat (0x10000 + (unit - 0xD800) * 0x400 + (low - 0xDC00)) :: ·)
        else none
      | [] => none
    else if 0xDC00 ≤ unit && unit < 0xE000 then none
    else (characters? units).map (Char.ofNat unit :: ·)

/-! ### Documents -/

/-- Whether a character may stand between words. -/
def isSpace (c : Char) : Bool :=
  c == ' ' || c == '\n' || c == '\t' || c == '\r'

/-- Splits a document into its words. -/
def lexemes? (chars : List Char) : Option (List Lexeme) :=
  match chars with
  | [] => some []
  | '\x7b' :: rest => (lexemes? rest).map (.openObject :: ·)
  | '\x7d' :: rest => (lexemes? rest).map (.closeObject :: ·)
  | '[' :: rest => (lexemes? rest).map (.openArray :: ·)
  | ']' :: rest => (lexemes? rest).map (.closeArray :: ·)
  | ',' :: rest => (lexemes? rest).map (.comma :: ·)
  | ':' :: rest => (lexemes? rest).map (.colon :: ·)
  | 'n' :: 'u' :: 'l' :: 'l' :: rest => (lexemes? rest).map (.null :: ·)
  | 't' :: 'r' :: 'u' :: 'e' :: rest => (lexemes? rest).map (.bool true :: ·)
  | 'f' :: 'a' :: 'l' :: 's' :: 'e' :: rest => (lexemes? rest).map (.bool false :: ·)
  | '"' :: rest =>
    match _read : textUnits? rest with
    | none => none
    | some (units, after) =>
      (lexemes? after).map (.text ((characters? units).map String.ofList) :: ·)
  | c :: rest =>
    if isSpace c then lexemes? rest
    else if isNumberChar c then
      match numeral? (c :: rest.takeWhile isNumberChar) with
      | none => none
      | some value => (lexemes? (rest.dropWhile isNumberChar)).map (.number value :: ·)
    else none
termination_by chars.length
decreasing_by
  all_goals simp only [List.length_cons]
  all_goals try omega
  · have := length_textUnits? _read
    omega
  · have := (List.dropWhile_sublist isNumberChar (l := rest)).length_le
    omega

end EntryTree.Json
