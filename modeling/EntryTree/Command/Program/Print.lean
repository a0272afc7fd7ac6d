import EntryTree.Command.Program.Invocation
import EntryTree.Command.Program.Numeral

/-!
# Printing programs

Programs that print their arguments: as they are, or by a format with conversions. The shell and
the system have each a program of the one and of the other kind; they differ in the escapes that
they know and in how they complain, which is gathered in a dialect.
-/

namespace EntryTree.Command

/-- The escapes and complaints of a printing program. -/
structure Dialect where
  /-- Knows hexadecimal escapes, and letters for the size of a number. -/
  extended : Bool
  /-- The significant bits of decimals. -/
  bits : Nat
  /-- Complains about an argument that is empty. -/
  refusesEmpty : Bool
  /-- Warns about arguments that the format leaves out. -/
  warnsOfExcess : Bool
  expectsNumber : String → String
  incomplete : String → String
  outOfRange : String → String
  invalid : String → String
  /-- What is said of a format that ends within a conversion, given what there is of it. -/
  unfinished : String → String
  /-- The code after an invalid conversion. -/
  invalidCode : Nat

namespace Dialect

/-- The dialect of the shell. -/
def shell : Dialect where
  extended := false
  bits := 53
  refusesEmpty := false
  warnsOfExcess := false
  expectsNumber := fun text => s!"{text}: expected numeric value"
  incomplete := fun text => s!"{text}: not completely converted"
  outOfRange := fun text => s!"{text}: Numerical result out of range"
  invalid := fun text => s!"{text}: invalid directive"
  unfinished := fun _ => "missing format character"
  invalidCode := 2

/-- The dialect of the system. -/
def system : Dialect where
  extended := true
  bits := 64
  refusesEmpty := true
  warnsOfExcess := true
  expectsNumber := fun text => s!"'{text}': expected a numeric value"
  incomplete := fun text => s!"'{text}': value not completely converted"
  outOfRange := fun text => s!"'{text}': Numerical result out of range"
  invalid := fun text => s!"{text}: invalid conversion specification"
  unfinished := fun text => s!"{text}: invalid conversion specification"
  invalidCode := 1

end Dialect

/-- The letters that stand for a control character behind a backslash. -/
def controlEscapes : List (Char × Char) :=
  [('a', '\x07'), ('b', '\x08'), ('f', '\x0c'), ('n', '\n'), ('r', '\r'), ('t', '\t'),
    ('v', '\x0b'), ('e', '\x1b'), ('\\', '\\')]

/-- Reads at most `limit` digits of a base; how many there were, their value, and what is left. -/
def fewDigits (base : Nat) : Nat → List Char → Nat × Nat × List Char :=
  go 0 0
where
  go (count value : Nat) : Nat → List Char → Nat × Nat × List Char
    | limit + 1, c :: rest =>
      match Numeral.digit? base c with
      | some digit => go (count + 1) (base * value + digit) limit rest
      | none => (count, value, c :: rest)
    | _, rest => (count, value, rest)

/-- The character for a value, of which eight bits count. -/
def byteOf (value : Nat) : Char :=
  Char.ofNat (value % 256)

/-- What a backslash and the characters behind it stand for. -/
inductive Escape
  | text (characters : List Char) (rest : List Char)
  /-- A hexadecimal escape without digits. -/
  | noDigits (rest : List Char)
  /-- The end of all output. -/
  | stop

/-- Reads what is behind a backslash. Octal numbers have up to three digits, which `zeroFirst` does
not count a zero in front among. -/
def readEscape (extended zeroFirst : Bool) (text : List Char) : Escape :=
  match text with
  | [] => .text ['\\'] []
  | c :: rest =>
    match controlEscapes.lookup c with
    | some control => .text [control] rest
    | none =>
      if c = 'c' then .stop
      else if c = '0' && zeroFirst then
        let (_, value, rest) := fewDigits 8 3 rest
        .text [byteOf value] rest
      else if (Numeral.digit? 8 c).isSome then
        let (_, value, rest) := fewDigits 8 3 text
        .text [byteOf value] rest
      else if extended && c = 'x' then
        let (count, value, behind) := fewDigits 16 2 rest
        if count = 0 then .noDigits rest else .text [byteOf value] behind
      else .text ['\\', c] rest

/-- Undoes the escapes of a text; whether it goes on behind the text. -/
def unescape (extended : Bool) : Nat → List Char → List Char × Bool
  | 0, text => (text, true)
  | _, [] => ([], true)
  | steps + 1, '\\' :: rest =>
    match readEscape extended true rest with
    | .stop => ([], false)
    | .text characters rest =>
      let (text, goesOn) := unescape extended steps rest
      (characters ++ text, goesOn)
    | .noDigits rest =>
      let (text, goesOn) := unescape extended steps rest
      ('\\' :: 'x' :: text, goesOn)
  | steps + 1, c :: rest =>
    let (text, goesOn) := unescape extended steps rest
    (c :: text, goesOn)

/-- Undoes the escapes of a text; whether it goes on behind the text. -/
def unescaped (extended : Bool) (text : String) : String × Bool :=
  let (text, goesOn) := unescape extended (text.length + 1) text.toList
  (String.ofList text, goesOn)

/-- The text that the shell prints of words. -/
def shellEcho (words : List String) : String :=
  let (words, ending) :=
    match words with
    | "-n" :: words => (words, "")
    | words => (words, "\n")
  let (text, goesOn) := unescaped false (" ".intercalate words)
  if goesOn then text ++ ending else text

/-- The text that the system prints of words: options may be told in one word or in several. -/
def systemEcho (words : List String) : String :=
  go false true words
where
  isOption (word : String) : Bool :=
    match word.toList with
    | '-' :: c :: rest => (c :: rest).all fun c => c == 'n' || c == 'e' || c == 'E'
    | _ => false
  lastOf (escapes : Bool) (letters : List Char) : Bool :=
    letters.foldl (fun escapes c => if c = 'e' then true else if c = 'E' then false else escapes)
      escapes
  go (escapes line : Bool) : List String → String
    | [] => if line then "\n" else ""
    | word :: words =>
      if isOption word then
        go (lastOf escapes word.toList) (line && !word.contains 'n') words
      else
        let text := " ".intercalate (word :: words)
        let ending := if line then "\n" else ""
        if escapes then
          let (text, goesOn) := unescaped true text
          if goesOn then text ++ ending else text
        else text ++ ending

/-! ### Formats -/

/-- What a format prints. -/
structure Printed where
  output : String := ""
  complaints : List String := []
  code : Nat := 0
  /-- Nothing may follow. -/
  stopped : Bool := false

/-- Reads an integer of a format's argument, and complains about what is wrong with it. -/
def integerArgument (dialect : Dialect) (signed : Bool) (argument : String) : Int × List String :=
  match argument.toList with
  | q :: c :: _ =>
    if q = '\'' || q = '"' then (c.toNat, [])
    else number
  | _ => number
where
  number : Int × List String :=
    let numeral :=
      if signed then Numeral.integer argument.toList else Numeral.natural argument.toList
    (numeral.value,
      if numeral.rest = argument.toList && (dialect.refusesEmpty || !argument.isEmpty) then
        [dialect.expectsNumber argument]
      else if !numeral.rest.isEmpty then [dialect.incomplete argument]
      else if numeral.clamped then [dialect.outOfRange argument]
      else [])

/-- A decimal, or what is none. -/
inductive DecimalValue
  | finite (value : Quotient)
  | special (negative : Bool) (name : String)

/-- Reads the name of an infinite number or of one that is none: the name and what is left. -/
def specialName? (text : List Char) : Option (String × List Char) :=
  let names := [("infinity", "inf"), ("inf", "inf"), ("nan", "nan")]
  names.findSome? fun (word, name) =>
    if (text.take word.length).map Char.toLower = word.toList then
      some (name, text.drop word.length)
    else none

/-- Keeps a decimal in the range of its significant bits; whether it was outside. -/
def inRange (dialect : Dialect) (value : Quotient) : DecimalValue × Bool :=
  let greatest := Nat.pow 2 1024
  if !dialect.extended && greatest * value.denominator ≤ value.numerator then
    (.special value.negative "inf", true)
  else if !dialect.extended && value.numerator != 0 &&
      value.numerator * Nat.pow 2 1075 ≤ value.denominator then
    (.finite { value with numerator := 0 }, true)
  else (.finite (value.toBits dialect.bits), false)

/-- Reads a decimal of a format's argument, and complains about what is wrong with it. -/
def decimalArgument (dialect : Dialect) (argument : String) : DecimalValue × List String :=
  match argument.toList with
  | q :: c :: _ => if q = '\'' || q = '"' then (.finite ⟨false, c.toNat, 1⟩, []) else number
  | _ => number
where
  number : DecimalValue × List String :=
    let (negative, behind) := Numeral.splitSign argument.toList
    match specialName? behind with
    | some (name, rest) =>
      (.special negative name, if rest.isEmpty then [] else [dialect.incomplete argument])
    | none =>
      let numeral := Quotient.read argument.toList
      let (value, outside) := inRange dialect numeral.value
      (value,
        if numeral.rest = argument.toList && (dialect.refusesEmpty || !argument.isEmpty) then
          [dialect.expectsNumber argument]
        else if !numeral.rest.isEmpty then [dialect.incomplete argument]
        else if outside then [dialect.outOfRange argument]
        else [])

/-- Puts a decimal into its field. -/
def decimalText (field : Field) (letter : Char) : DecimalValue → String
  | .finite value => field.decimal letter value
  | .special negative name =>
    field.pad (field.sign negative ++ if letter.isUpper then name.toUpper else name)

/-- The state of printing by a format. -/
structure Printing where
  printed : Printed
  arguments : List String
  /-- Whether an argument was asked for. -/
  used : Bool

namespace Printing

/-- Adds output. -/
def add (printing : Printing) (text : String) : Printing :=
  { printing with printed := { printing.printed with output := printing.printed.output ++ text } }

/-- Adds complaints. -/
def complain (printing : Printing) (complaints : List String) : Printing :=
  if complaints.isEmpty then printing
  else
    { printing with
      printed :=
        { printing.printed with
          complaints := printing.printed.complaints ++ complaints
          code := 1 } }

/-- Stops for good. -/
def stop (printing : Printing) : Printing :=
  { printing with printed := { printing.printed with stopped := true } }

/-- Takes an argument. -/
def next (printing : Printing) : Option String × Printing :=
  (printing.arguments.head?,
    { printing with arguments := printing.arguments.tail, used := true })

end Printing

/-- Reads the flags of a conversion. -/
def readFlags (field : Field) : List Char → Field × List Char
  | '-' :: rest => readFlags { field with left := true } rest
  | '+' :: rest => readFlags { field with plus := true } rest
  | ' ' :: rest => readFlags { field with space := true } rest
  | '0' :: rest => readFlags { field with zeros := true } rest
  | '#' :: rest => readFlags { field with alternate := true } rest
  | rest => (field, rest)

/-- Reads a width or a precision, which may be an argument. -/
def readAmount (dialect : Dialect) (printing : Printing) (text : List Char) :
    Int × Printing × List Char :=
  match text with
  | '*' :: rest =>
    match printing.next with
    | (some argument, printing) =>
      let (value, complaints) := integerArgument dialect true argument
      (value, printing.complain complaints, rest)
    | (none, printing) => (0, printing, rest)
  | text =>
    let (value, rest) := Numeral.digits 10 0 text
    (value, printing, rest)

/-- The letters for the size of a number. -/
def sizeLetters : List Char :=
  ['l', 'L', 'h', 'j', 't', 'z']

/-- Prints a conversion behind its percent sign; what is left of the format. -/
def convert (dialect : Dialect) (printing : Printing) (text : List Char) : Printing × List Char :=
  let (field, behind) := readFlags {} text
  let (width, printing, behind) := readAmount dialect printing behind
  let field :=
    { field with width := width.natAbs, left := field.left || decide (width < 0) }
  let (field, printing, behind) :=
    match behind with
    | '.' :: behind =>
      let (precision, printing, behind) := readAmount dialect printing behind
      ({ field with precision := if precision < 0 then none else some precision.toNat }, printing,
        behind)
    | behind => (field, printing, behind)
  let behind := if dialect.extended then behind.dropWhile sizeLetters.contains else behind
  let refused (complaint : String → String) (rest : List Char) : Printing :=
    let shown := String.ofList ('%' :: text.take (text.length - rest.length))
    let printing := (printing.complain [complaint shown]).stop
    { printing with printed := { printing.printed with code := dialect.invalidCode } }
  match behind with
  | [] => (refused dialect.unfinished [], [])
  | letter :: rest =>
    if letter = '%' then
      if rest.length + 1 = text.length then (printing.add "%", rest)
      else (refused dialect.invalid rest, [])
    else
      let (argument, printing) := printing.next
      if letter = 's' then (printing.add (field.text (argument.getD "")), rest)
      else if letter = 'c' then
        let c := ((argument.getD "").toList.head?).getD '\x00'
        (printing.add (field.pad c.toString), rest)
      else if letter = 'b' then
        let (text, goesOn) := unescaped dialect.extended (argument.getD "")
        let printing := printing.add (field.text text)
        (if goesOn then printing else printing.stop, rest)
      else if ['d', 'i', 'o', 'u', 'x', 'X'].contains letter then
        match argument with
        | none => (printing.add (field.integer letter 0), rest)
        | some argument =>
          let (value, complaints) :=
            integerArgument dialect (letter = 'd' || letter = 'i') argument
          ((printing.complain complaints).add (field.integer letter value), rest)
      else if ['e', 'E', 'f', 'F', 'g', 'G'].contains letter then
        match argument with
        | none => (printing.add (field.decimal letter ⟨false, 0, 1⟩), rest)
        | some argument =>
          let (value, complaints) := decimalArgument dialect argument
          ((printing.complain complaints).add (decimalText field letter value), rest)
      else (refused dialect.invalid rest, [])

/-- Prints by a format once. -/
def printOnce (dialect : Dialect) : Nat → Printing → List Char → Printing
  | 0, printing, _ => printing
  | steps + 1, printing, text =>
    if printing.printed.stopped then printing
    else
      match text with
      | [] => printing
      | '%' :: rest =>
        let (printing, rest) := convert dialect printing rest
        printOnce dialect steps printing rest
      | '\\' :: rest =>
        if dialect.extended && rest.head? = some '"' then
          printOnce dialect steps (printing.add "\"") rest.tail
        else
          match readEscape dialect.extended false rest with
          | .stop => printing.stop
          | .noDigits _ =>
            let printing := printing.complain ["missing hexadecimal number in escape"]
            printing.stop
          | .text characters rest =>
            printOnce dialect steps (printing.add (String.ofList characters)) rest
      | c :: rest => printOnce dialect steps (printing.add (String.singleton c)) rest

/-- Prints by a format as long as there are arguments that it asks for. -/
def printAll (dialect : Dialect) (format : List Char) : Nat → Printing → Printing
  | 0, printing => printing
  | rounds + 1, printing =>
    let printing := printOnce dialect (format.length + 1) { printing with used := false } format
    if printing.printed.stopped || printing.arguments.isEmpty then printing
    else if !printing.used then
      if dialect.warnsOfExcess then
        { printing with
          printed :=
            { printing.printed with
              complaints := printing.printed.complaints ++
                ["warning: ignoring excess arguments, starting with " ++
                  "'" ++ printing.arguments.head?.getD "" ++ "'"] } }
      else printing
    else printAll dialect format rounds printing

/-- What a format prints of arguments. -/
def printFormat (dialect : Dialect) (format : String) (arguments : List String) : Printed :=
  (printAll dialect format.toList (arguments.length + 1) ⟨{}, arguments, false⟩).printed

/-! ### The programs -/

/-- `echo`: the arguments, separated by spaces. -/
def echo : Program := fun invocation => invocation.print (systemEcho invocation.arguments) 0

/-- `printf`: a format filled with arguments. -/
def printf : Program := fun invocation => do
  let arguments :=
    match invocation.arguments with
    | "--" :: rest => rest
    | arguments => arguments
  match arguments with
  | [] => invocation.refuse "missing operand" 1
  | format :: arguments =>
    let printed := printFormat .system format arguments
    for complaint in printed.complaints do
      invocation.complain s!"{invocation.name}: {complaint}\n"
    invocation.print printed.output printed.code

end EntryTree.Command
