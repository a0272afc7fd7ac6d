import EntryTree.Command.Program.Print

/-!
# Programs that pass streams on

Programs that copy, cut, count or order what they read. Texts are cut into lines, of which the last
one need not have an end.
-/

namespace EntryTree.Command

/-- The lines of a text, each with its end if it has one. -/
def fullLines (text : String) : List String :=
  go [] text.toList
where
  go (line : List Char) : List Char → List String
    | [] => if line.isEmpty then [] else [String.ofList line.reverse]
    | '\n' :: rest => String.ofList ('\n' :: line).reverse :: go [] rest
    | c :: rest => go (c :: line) rest

/-- A line without its end. -/
def dropEnd (line : String) : String :=
  if line.endsWith "\n" then String.ofList line.toList.dropLast else line

/-- The lines of a text without their ends. -/
def linesOf (text : String) : List String :=
  (fullLines text).map dropEnd

/-- Lines with ends. -/
def joinLines (lines : List String) : String :=
  String.join (lines.map (· ++ "\n"))

/-- Reads inputs by name, all of the standard input if none is named. What cannot be read is
complained about. -/
def readInputs (invocation : Invocation) (names : List String)
    (complaint : String → String → String) : Act (List (String × String) × Nat) := do
  let names := if names.isEmpty then ["-"] else names
  let mut texts := []
  let mut code := 0
  for name in names do
    match ← invocation.read name with
    | .ok text => texts := texts ++ [(name, text)]
    | .error message =>
      invocation.complain s!"{invocation.name}: {complaint name message}\n"
      code := 1
  return (texts, code)

/-- The plain complaint about an input. -/
def plainComplaint (name message : String) : String :=
  s!"{name}: {message}"

/-- The complaint about an input that cannot be opened. -/
def openComplaint (name message : String) : String :=
  if message = "Is a directory" then s!"error reading '{name}': {message}"
  else s!"cannot open '{name}' for reading: {message}"

/-- Runs a function on the whole input. -/
def filter (table : OptionTable) (body : Parsed → String → String) : Program := fun invocation =>
  invocation.withOptions table 1 fun parsed => do
    let (texts, code) ← readInputs invocation parsed.operands plainComplaint
    invocation.print (body parsed (String.join (texts.map Prod.snd))) code

/-! ### Copying -/

/-- How a character without a shape of its own is shown. Ends of lines and tabs are left to
others. -/
def shownCharacter (c : Char) : String :=
  let code := c.toNat
  let plain (code : Nat) : String :=
    if code < 32 then s!"^{Char.ofNat (code + 64)}"
    else if code = 127 then "^?"
    else (Char.ofNat code).toString
  if code < 128 then if c = '\t' then "\t" else plain code
  else "M-" ++ plain (code - 128)

/-- Prepares a text for being shown by `cat`: numbers, squeezed blank lines, marks of line ends and
tabs. -/
def decorate (parsed : Parsed) (text : String) : String :=
  let lines := fullLines text
  let lines := if parsed.has 's' then squeeze lines else lines
  let (_, shown) := lines.foldl show_ (1, "")
  shown
where
  squeeze : List String → List String
    | "\n" :: "\n" :: rest => squeeze ("\n" :: rest)
    | line :: rest => line :: squeeze rest
    | [] => []
  show_ : Nat × String → String → Nat × String
    | (count, shown), line =>
      let body := dropEnd line
      let ending := if line.endsWith "\n" then "\n" else ""
      let tabs := parsed.has 'T' || parsed.has 'A' || parsed.has 't'
      let body :=
        if ['v', 'A', 'e', 't'].any parsed.has then String.join (body.toList.map shownCharacter)
        else body
      let body :=
        if tabs then String.join (body.toList.map fun c => if c = '\t' then "^I" else c.toString)
        else body
      let ends := parsed.has 'E' || parsed.has 'A' || parsed.has 'e'
      let ending := if ends && !ending.isEmpty then "$\n" else ending
      let numbered := if parsed.has 'b' then !(dropEnd line).isEmpty else parsed.has 'n'
      if numbered then
        let digits := toString count
        (count + 1, shown ++ "".pushn ' ' (6 - digits.length) ++ digits ++ "\t" ++ body ++ ending)
      else (count, shown ++ body ++ ending)

/-- Writes what can be read from where a descriptor leads to the standard output, as it comes. The
status is that of the last writing that failed, if there is one. -/
def Invocation.copyAll (invocation : Invocation) (channel : Option Channel)
    (status : ProcessStatus) : Act ProcessStatus := do
  let mut status := status
  for supply in ← Machine.readAll channel do
    Machine.waitUntil supply.time
    match ← invocation.print supply.data 0 with
    | .exited 0 => pure ()
    | failed => status := failed
  return status

/-- `cat`: the inputs one after another. -/
def cat : Program := fun invocation =>
  let table : OptionTable :=
    ⟨"AbeEnstTuv", "", [("number", 'n'), ("number-nonblank", 'b'), ("show-ends", 'E'),
      ("show-all", 'A'), ("squeeze-blank", 's'), ("show-tabs", 'T')]⟩
  invocation.withOptions table 1 fun parsed => do
    let names := if parsed.operands.isEmpty then ["-"] else parsed.operands
    if parsed.options.all (·.1 == 'u') then
      let mut status : ProcessStatus := .exited 0
      for name in names do
        let opened ←
          if name = "-" || Machine.deviceDescriptor? name = some 0 then
            pure (Except.ok (invocation.channel 0))
          else do
            match ← Machine.openToRead invocation.directory name with
            | .ok (.file _) => pure (Except.error "Is a directory")
            | .ok channel => pure (Except.ok (some channel))
            | .error message => pure (Except.error message)
        match opened with
        | .ok none => status ← invocation.fail s!"{name}: Bad file descriptor" 1
        | .ok channel => status ← invocation.copyAll channel status
        | .error message => status ← invocation.fail s!"{name}: {message}" 1
      return status
    else
      let (texts, code) ← readInputs invocation names plainComplaint
      invocation.print (decorate parsed (String.join (texts.map Prod.snd))) code

/-- `tee`: the input to the output and to files. -/
def tee : Program := fun invocation =>
  invocation.withOptions ⟨"aip", "", [("append", 'a')]⟩ 1 fun parsed => do
    let mut targets := []
    let mut code := 0
    for name in parsed.operands do
      match (Machine.deviceDescriptor? name).bind invocation.channel with
      | some channel => targets := targets ++ [channel]
      | none =>
        match ← Machine.openToWrite invocation.directory name (parsed.has 'a') with
        | .ok channel => targets := targets ++ [channel]
        | .error message =>
          invocation.complain s!"{invocation.name}: {name}: {message}\n"
          code := 1
    for supply in ← Machine.readAll (invocation.channel 0) do
      Machine.waitUntil supply.time
      discard (invocation.print supply.data 0)
      for target in targets do
        discard (Machine.writeTo (some target) supply.data)
    return .exited code

/-- `yes`: a line again and again, as often as anyone would read it. -/
def yes : Program := fun invocation => do
  let words := invocation.arguments
  let line := (if words.isEmpty then "y" else " ".intercalate words) ++ "\n"
  let text := String.join (List.replicate (Machine.manyZeros / line.length + 1) line)
  match invocation.channel 1 with
  | some (.sink _) => discard (invocation.print text 0)
  | some .null | some (.file _) => Machine.waitUntil Machine.never
  | _ => return ← invocation.print text 1
  return .signalled pipeSignal

/-! ### The ends of streams -/

/-- Reads a count with a unit behind it. -/
def count? (text : String) : Option Nat :=
  let digits := text.toList.takeWhile Char.isDigit
  let unit? : Option Nat :=
    match String.ofList (text.toList.dropWhile Char.isDigit) with
    | "" => some 1
    | "b" => some 512
    | "k" => some 1024
    | "K" => some 1024
    | "KiB" => some 1024
    | "kB" => some 1000
    | "KB" => some 1000
    | "M" => some 1048576
    | "MiB" => some 1048576
    | "MB" => some 1000000
    | "G" => some 1073741824
    | _ => none
  if digits.isEmpty then none else unit?.map ((Numeral.digits 10 0 digits).1 * ·)

/-- Which end of a stream is wanted: how much, whether lines or bytes, whether counted from the
other end, and the names. -/
structure Wanted where
  count : Nat
  bytes : Bool
  other : Bool
  quiet : Option Bool
  names : List String

/-- Reads the arguments of `head` and `tail`. `mark` stands in front of a count from the other
end. -/
def readWanted (mark : Char) (arguments : List String) : Except (String × Bool) Wanted :=
  let arguments :=
    match arguments with
    | first :: rest =>
      match first.toList with
      | c :: d :: more =>
        if (c = '-' || (c = '+' && mark = '+')) && d.isDigit then
          let sign := if c = '+' then "+" else ""
          let digits := (d :: more).takeWhile Char.isDigit
          let letter := if (d :: more).drop digits.length = ['c'] then "-c" else "-n"
          letter :: (sign ++ String.ofList digits) :: rest
        else arguments
      | _ => arguments
    | [] => []
  let table : OptionTable :=
    ⟨"qvfz", "nc",
      [("lines", 'n'), ("bytes", 'c'), ("quiet", 'q'), ("silent", 'q'), ("verbose", 'v')]⟩
  match table.parse true none arguments with
  | .error message => .error (message, true)
  | .ok parsed =>
    let quiet :=
      (parsed.options.reverse.find? fun (option, _) => option == 'q' || option == 'v').map
        fun (option, _) => option == 'q'
    match parsed.options.reverse.find? fun (option, _) => option == 'n' || option == 'c' with
    | none => .ok ⟨10, false, false, quiet, parsed.operands⟩
    | some (option, value) =>
      let other := value.toList.head? = some mark
      let digits :=
        if other || value.toList.head? = some '-' || value.toList.head? = some '+' then
          String.ofList value.toList.tail
        else value
      match count? digits with
      | some count => .ok ⟨count, option = 'c', other, quiet, parsed.operands⟩
      | none =>
        let unit := if option = 'c' then "bytes" else "lines"
        .error (s!"invalid number of {unit}: '{digits}'", false)

/-- The first lines of a text, or bytes. -/
def firstPart (wanted : Wanted) (text : String) : String :=
  if wanted.bytes then
    let characters := text.toList
    String.ofList
      (characters.take (if wanted.other then characters.length - wanted.count else wanted.count))
  else
    let lines := fullLines text
    String.join (lines.take (if wanted.other then lines.length - wanted.count else wanted.count))

/-- The last lines of a text, or bytes. -/
def lastPart (wanted : Wanted) (text : String) : String :=
  if wanted.bytes then
    let characters := text.toList
    let skipped := if wanted.other then wanted.count - 1 else characters.length - wanted.count
    String.ofList (characters.drop skipped)
  else
    let lines := fullLines text
    let skipped := if wanted.other then wanted.count - 1 else lines.length - wanted.count
    String.join (lines.drop skipped)

/-- How much of a stream is read at a time. -/
def blockSize : Nat := 8192

/-- Takes blocks off the standard input until there are enough lines in them. -/
def readLines? (channel : Option Channel) (count : Nat) : Nat → String → Act String
  | 0, text => return text
  | steps + 1, text => do
    if count ≤ text.toList.count '\n' then return text
    else
      let block ← Machine.readCount channel blockSize
      if block.isEmpty then return text else readLines? channel count steps (text ++ block)

/-- Prints a part of every input, with the names if there are several. -/
def printParts (invocation : Invocation) (wanted : Wanted)
    (part : String → Act (Except String String)) : Act ProcessStatus := do
  let names := if wanted.names.isEmpty then ["-"] else wanted.names
  let titled := !(wanted.quiet.getD (names.length ≤ 1))
  let mut code := 0
  let mut first := true
  for name in names do
    match ← part name with
    | .ok text =>
      let shown := if name = "-" then "standard input" else name
      let title := (if first then "" else "\n") ++ s!"==> {shown} <==\n"
      discard (invocation.print ((if titled then title else "") ++ text) 0)
      first := false
    | .error message =>
      invocation.complain s!"{invocation.name}: {openComplaint name message}\n"
      code := 1
  return .exited code

/-- `head`: the first part of every input. -/
def head : Program := fun invocation => do
  match readWanted '-' invocation.arguments with
  | .error (message, help) =>
    if help then invocation.refuse message 1 else invocation.fail message 1
  | .ok wanted =>
    printParts invocation wanted fun name => do
      let channel ←
        if name = "-" then pure (Except.ok (invocation.channel 0))
        else do
          match ← Machine.openToRead invocation.directory name with
          | .ok (.file _) => pure (Except.error "Is a directory")
          | .ok channel => pure (Except.ok (some channel))
          | .error message => pure (Except.error message)
      match channel with
      | .error message => return .error message
      | .ok channel =>
        if wanted.other then return .ok (firstPart wanted (← Machine.readText channel))
        else if wanted.bytes then return .ok (← Machine.readCount channel wanted.count)
        else
          let text ← readLines? channel wanted.count Machine.manyZeros ""
          return .ok (firstPart wanted text)

/-- `tail`: the last part of every input. -/
def tail : Program := fun invocation => do
  match readWanted '+' invocation.arguments with
  | .error (message, help) =>
    if help then invocation.refuse message 1 else invocation.fail message 1
  | .ok wanted =>
    printParts invocation wanted fun name => do
      match ← invocation.read name with
      | .ok text => return .ok (lastPart wanted text)
      | .error message => return .error message

/-! ### Counting and ordering -/

/-- The words of a text. -/
def wordsOf (text : String) : List String :=
  (text.splitToList Numeral.isSpace).filter (· != "")

/-- `wc`: how many lines, words and bytes there are. -/
def wordCount : Program := fun invocation =>
  let table : OptionTable :=
    ⟨"lwcmL", "", [("lines", 'l'), ("words", 'w'), ("bytes", 'c'), ("chars", 'm')]⟩
  invocation.withOptions table 1 fun parsed => do
    let (texts, code) ← readInputs invocation parsed.operands plainComplaint
    let counts (text : String) : List Nat :=
      let all := parsed.options.isEmpty
      (if all || parsed.has 'l' then [text.toList.count '\n'] else []) ++
        (if all || parsed.has 'w' then [(wordsOf text).length] else []) ++
        (if all || parsed.has 'c' || parsed.has 'm' then [text.length] else []) ++
        (if parsed.has 'L' then [((linesOf text).map String.length).foldl max 0] else [])
    let rows := texts.map fun (name, text) => (name, counts text)
    let total := (texts.map fun (_, text) => text.length).foldl (· + ·) 0
    let columns := (counts "").length
    let fromInput := parsed.operands.isEmpty || parsed.operands.contains "-"
    let width :=
      if columns ≤ 1 && parsed.operands.length ≤ 1 then 1
      else if fromInput then 7
      else (toString total).length
    let row (name : String) (counts : List Nat) : String :=
      let column (count : Nat) : String :=
        "".pushn ' ' (width - (toString count).length) ++ toString count
      " ".intercalate (counts.map column) ++
        (if parsed.operands.isEmpty then "" else " " ++ name) ++ "\n"
    let sums := rows.foldl (fun sums (_, counts) =>
      if sums.isEmpty then counts else List.zipWith (· + ·) sums counts) []
    let body := String.join (rows.map fun (name, counts) => row name counts)
    invocation.print (if 1 < parsed.operands.length then body ++ row "total" sums else body) code

/-- The number that a line begins with, scaled so that fractions count. -/
def leadingNumber (line : String) : Int :=
  let numeral := Quotient.read line.toList
  let size : Int :=
    (numeral.value.numerator * 1000000000 / numeral.value.denominator : Nat)
  if numeral.value.negative then -size else size

/-- The part of a line that it is ordered by. -/
def sortKey (parsed : Parsed) (line : String) : String :=
  match parsed.value? 'k' with
  | none => line
  | some spec =>
    let (first, behind) := Numeral.digits 10 0 spec.toList
    let last :=
      match behind with
      | ',' :: rest => some (Numeral.digits 10 0 rest).1
      | _ => none
    match parsed.value? 't' with
    | some separator =>
      let fields := line.splitToList (fun c => separator.contains c)
      let fields := fields.drop (first - 1)
      separator.intercalate (match last with
        | some last => fields.take (last + 1 - first)
        | none => fields)
    | none =>
      let fields := (wordsOf line).drop (first - 1)
      " ".intercalate (match last with
        | some last => fields.take (last + 1 - first)
        | none => fields)

/-- `sort`: the lines in order. -/
def sort : Program := fun invocation =>
  let table : OptionTable :=
    ⟨"nrufbsdcz", "kto", [("numeric-sort", 'n'), ("reverse", 'r'), ("unique", 'u'),
      ("ignore-case", 'f'), ("key", 'k'), ("field-separator", 't')]⟩
  invocation.withOptions table 2 fun parsed => do
    let (texts, code) ← readInputs invocation parsed.operands
      fun name message => s!"cannot read: {name}: {message}"
    let numeric := parsed.has 'n' || ((parsed.value? 'k').getD "").contains 'n'
    let reverse := parsed.has 'r' || ((parsed.value? 'k').getD "").contains 'r'
    let fold (text : String) : String := if parsed.has 'f' then text.toUpper else text
    let key (line : String) : String := fold (sortKey parsed line)
    let byKey (first second : String) : Ordering :=
      if numeric then compare (leadingNumber (key first)) (leadingNumber (key second))
      else compare (key first) (key second)
    let turn (order : Ordering) : Ordering := if reverse then order.swap else order
    let zeros := parsed.has 'z'
    let linesOf (text : String) : List String :=
      if zeros then (linesOf (swapEnds text)).map swapEnds else linesOf text
    let lines := texts.flatMap fun (_, text) => linesOf text
    let order (first second : String) : Bool :=
      let order := turn (byKey first second)
      let order :=
        if order = .eq && !parsed.has 's' && !parsed.has 'u' then turn (compare first second)
        else order
      order != .gt
    let sorted := lines.mergeSort order
    let sorted := if parsed.has 'u' then unique byKey sorted else sorted
    let ending := if zeros then "\x00" else "\n"
    if 0 < code then return .exited 2
    else invocation.print (String.join (sorted.map (· ++ ending))) 0
where
  swapEnds (text : String) : String :=
    text.map fun c => if c = '\n' then '\x00' else if c = '\x00' then '\n' else c
  unique (byKey : String → String → Ordering) : List String → List String
    | first :: second :: rest =>
      let others := unique byKey (second :: rest)
      if byKey first second = .eq then first :: others.tail else first :: others
    | lines => lines

/-- `uniq`: the lines without those that repeat the line before. -/
def uniq : Program := fun invocation =>
  let table : OptionTable :=
    ⟨"cdui", "", [("count", 'c'), ("repeated", 'd'), ("unique", 'u'), ("ignore-case", 'i')]⟩
  invocation.withOptions table 1 fun parsed => do
    let (texts, code) ← readInputs invocation (parsed.operands.take 1) plainComplaint
    let fold (text : String) : String := if parsed.has 'i' then text.toLower else text
    let groups := runs fold (texts.flatMap fun (_, text) => linesOf text)
    let groups := groups.filter fun (_, count) =>
      (!parsed.has 'd' || 1 < count) && (!parsed.has 'u' || count = 1)
    let line : String × Nat → String := fun (line, count) =>
      if parsed.has 'c' then
        "".pushn ' ' (7 - (toString count).length) ++ s!"{count} {line}"
      else line
    invocation.print (joinLines (groups.map line)) code
where
  runs (fold : String → String) : List String → List (String × Nat)
    | [] => []
    | line :: rest =>
      match runs fold rest with
      | (next, count) :: groups =>
        if fold next = fold line then (line, count + 1) :: groups
        else (line, 1) :: (next, count) :: groups
      | [] => [(line, 1)]

/-- `tac`: the lines in reverse. -/
def tac : Program :=
  filter ⟨"", "", []⟩ fun _ text => String.join (fullLines text).reverse

/-- `rev`: the characters of every line in reverse. -/
def rev : Program :=
  filter ⟨"", "", []⟩ fun _ text =>
    String.join ((fullLines text).map fun line =>
      let body := (dropEnd line).toList.reverse
      String.ofList body ++ (if line.endsWith "\n" then "\n" else ""))

/-- `nl`: the lines with numbers. -/
def numberLines : Program :=
  filter ⟨"", "bnsvw", []⟩ fun parsed text =>
    let all := parsed.value? 'b' = some "a"
    let (_, shown) := (linesOf text).foldl (fun (count, shown) line =>
      if line.isEmpty && !all then (count, shown ++ "       \n")
      else
        let digits := toString (count : Nat)
        (count + 1, shown ++ "".pushn ' ' (6 - digits.length) ++ digits ++ "\t" ++ line ++ "\n"))
      (1, "")
    shown

/-- `fold`: the lines cut to a width. -/
def foldLines : Program :=
  filter ⟨"bs", "w", [("width", 'w')]⟩ fun parsed text =>
    let width := max 1 (((parsed.value? 'w').bind count?).getD 80)
    String.join ((fullLines text).map fun line =>
      let ending := if line.endsWith "\n" then "\n" else ""
      let body := (dropEnd line).toList
      "\n".intercalate (chunks width (body.length + 1) body) ++ ending)
where
  chunks (width : Nat) : Nat → List Char → List String
    | 0, _ => []
    | steps + 1, text =>
      if text.length ≤ width then [String.ofList text]
      else String.ofList (text.take width) :: chunks width steps (text.drop width)

/-! ### Characters and fields -/

/-- The characters of a class by its name. -/
def classCharacters (name : String) : List Char :=
  let all := (List.range 128).map Char.ofNat
  match name with
  | "alpha" => all.filter Char.isAlpha
  | "digit" => all.filter Char.isDigit
  | "alnum" => all.filter Char.isAlphanum
  | "upper" => all.filter Char.isUpper
  | "lower" => all.filter Char.isLower
  | "space" => all.filter Numeral.isSpace
  | "blank" => [' ', '\t']
  | "punct" => all.filter fun c => 33 ≤ c.toNat && c.toNat < 127 && !c.isAlphanum
  | "xdigit" => all.filter fun c => (Numeral.digit? 16 c).isSome
  | "cntrl" => all.filter fun c => c.toNat < 32 || c.toNat = 127
  | "print" => all.filter fun c => 32 ≤ c.toNat && c.toNat < 127
  | "graph" => all.filter fun c => 33 ≤ c.toNat && c.toNat < 127
  | _ => []

/-- The characters of a set as `tr` has it: ranges, classes and escapes. -/
def characterSet : Nat → List Char → List Char
  | 0, _ => []
  | _, [] => []
  | steps + 1, '[' :: ':' :: rest =>
    let name := rest.takeWhile (· != ':')
    match rest.dropWhile (· != ':') with
    | ':' :: ']' :: behind => classCharacters (String.ofList name) ++ characterSet steps behind
    | _ => '[' :: characterSet steps (':' :: rest)
  | steps + 1, '\\' :: rest =>
    match rest with
    | c :: behind =>
      let (characters, behind) : Char × List Char :=
        match [('n', '\n'), ('t', '\t'), ('r', '\r'), ('\\', '\\'), ('a', '\x07'), ('b', '\x08'),
          ('f', '\x0c'), ('v', '\x0b')].lookup c with
        | some control => (control, behind)
        | none =>
          if (Numeral.digit? 8 c).isSome then
            let digits := rest.take 3 |>.takeWhile fun c => (Numeral.digit? 8 c).isSome
            (Char.ofNat ((Numeral.digits 8 0 digits).1 % 256), rest.drop digits.length)
          else (c, behind)
      characters :: characterSet steps behind
    | [] => ['\\']
  | steps + 1, first :: '-' :: last :: rest =>
    let width := last.toNat + 1 - first.toNat
    ((List.range width).map fun index => Char.ofNat (first.toNat + index)) ++
      characterSet steps rest
  | steps + 1, c :: rest => c :: characterSet steps rest

/-- A range of a set that goes backward, if there is one. -/
def backwardRange? : List Char → Option (Char × Char)
  | '\\' :: _ :: rest => backwardRange? rest
  | first :: '-' :: last :: rest =>
    if last < first then some (first, last) else backwardRange? rest
  | _ :: rest => backwardRange? rest
  | [] => none

/-- `tr`: characters replaced, left out or squeezed. -/
def translate : Program := fun invocation => do
  let table : OptionTable :=
    ⟨"cCdst", "", [("complement", 'c'), ("delete", 'd'), ("squeeze-repeats", 's')]⟩
  match table.parse false none invocation.arguments with
  | .error message => invocation.refuse message 1
  | .ok parsed =>
    let set (text : String) : List Char := characterSet (text.length + 1) text.toList
    match parsed.operands with
    | [] => invocation.refuse "missing operand" 1
    | first :: others =>
      if others.isEmpty && !parsed.has 'd' && !parsed.has 's' then
        invocation.complain (s!"{invocation.name}: missing operand after '{first}'\n" ++
          "Two strings must be given when translating.\n" ++
          s!"Try '{invocation.name} --help' for more information.\n")
        return .exited 1
      else if 1 < others.length then
        let extra := others[1]?.getD ""
        invocation.refuse s!"extra operand '{extra}'" 1
      else if let some (low, high) := (first :: others).findSome? (backwardRange? ·.toList) then
        invocation.fail
          s!"range-endpoints of '{low}-{high}' are in reverse collating sequence order" 1
      else
        let from_ := set first
        let from_ :=
          if parsed.has 'c' || parsed.has 'C' then
            ((List.range 256).map Char.ofNat).filter (!from_.contains ·)
          else from_
        let into := set (others.head?.getD "")
        let into := into ++ List.replicate (from_.length - into.length) (into.getLast?.getD ' ')
        let text := (← invocation.input).toList
        let text := if parsed.has 'd' then text.filter (!from_.contains ·) else text
        let translates := !parsed.has 'd' && !others.isEmpty
        let pairs := (from_.zip into).reverse
        let text := if translates then text.map fun c => (pairs.lookup c).getD c else text
        let squeezed := if others.isEmpty then from_ else into
        let text := if parsed.has 's' then squeeze squeezed text else text
        invocation.print (String.ofList text) 0
where
  squeeze (set : List Char) : List Char → List Char
    | first :: second :: rest =>
      let others := squeeze set (second :: rest)
      if first = second && set.contains first then others else first :: others
    | text => text

/-- The ranges of a list of positions. -/
def ranges? (text : String) : Option (List (Nat × Option Nat)) :=
  (text.splitToList (· == ',')).mapM fun part =>
    match part.splitToList (· == '-') with
    | [single] =>
      single.toNat?.bind fun first => if first = 0 then none else some (first, some first)
    | [first, last] =>
      let low := if first.isEmpty then some 1 else first.toNat?
      let high := if last.isEmpty then some none else last.toNat?.map some
      low.bind fun low => high.map fun high => (low, high)
    | _ => none

/-- `cut`: some characters or fields of every line. -/
def cut : Program := fun invocation =>
  let table : OptionTable :=
    ⟨"sn", "bcfd", [("fields", 'f'), ("delimiter", 'd'), ("characters", 'c'), ("bytes", 'b'),
      ("only-delimited", 's')]⟩
  invocation.withOptions table 1 fun parsed => do
    let spec := parsed.options.find? fun (option, _) => option != 'd' && option != 's'
    match spec with
    | none => invocation.refuse "you must specify a list of bytes, characters, or fields" 1
    | some (option, text) =>
      let delimiter := (parsed.value? 'd').getD "\t"
      if 1 < delimiter.length then
        invocation.refuse "the delimiter must be a single character" 1
      else match ranges? text with
      | none =>
        let zero := (text.splitToList fun c => c == ',' || c == '-').contains "0"
        let unit := if option = 'f' then "field" else "byte/character position"
        if zero then
          let units := if option = 'f' then "fields" else "byte/character positions"
          invocation.refuse s!"{units} are numbered from 1" 1
        else invocation.refuse s!"invalid {unit} '{text}'" 1
      | some ranges =>
        let chosen (index : Nat) : Bool := ranges.any fun (first, last) =>
          first ≤ index + 1 && (match last with
            | some last => index + 1 ≤ last
            | none => true)
        let (texts, code) ← readInputs invocation parsed.operands plainComplaint
        let line (line : String) : Option String :=
          if option = 'f' then
            let fields := line.splitToList (delimiter.contains ·)
            if fields.length ≤ 1 then if parsed.has 's' then none else some line
            else
              some (delimiter.intercalate
                ((fields.zipIdx.filter fun (_, index) => chosen index).map Prod.fst))
          else
            some (String.ofList
              ((line.toList.zipIdx.filter fun (_, index) => chosen index).map Prod.fst))
        let lines := texts.flatMap fun (_, text) => linesOf text
        invocation.print (joinLines (lines.filterMap line)) code

/-- `paste`: lines side by side, or one behind another. -/
def paste : Program := fun invocation =>
  invocation.withOptions ⟨"s", "d", [("serial", 's'), ("delimiters", 'd')]⟩ 1 fun parsed => do
    let (texts, code) ← readInputs invocation parsed.operands plainComplaint
    let delimiters := ((parsed.value? 'd').getD "\t").toList
    let join (texts : List String) : String :=
      match texts with
      | [] => ""
      | first :: others =>
        first ++ String.join (others.zipIdx.map fun (text, index) =>
          let delimiter := delimiters[index % max 1 delimiters.length]?
          (delimiter.map Char.toString).getD "" ++ text)
    let shared := (texts.filter (·.1 = "-")).length
    let input := (texts.find? (·.1 = "-")).map fun (_, text) => (linesOf text).zipIdx
    let (columns, _) := texts.foldl (fun (columns, index) (name, text) =>
      if name = "-" && 1 < shared then
        let mine := (input.getD []).filter fun (_, place) => place % shared = index
        (columns ++ [mine.map Prod.fst], index + 1)
      else (columns ++ [linesOf text], index)) (([] : List (List String)), 0)
    let rows :=
      if parsed.has 's' then columns
      else
        (List.range ((columns.map List.length).foldl max 0)).map fun index =>
          columns.map fun column => column[index]?.getD ""
    invocation.print (joinLines (rows.map join)) code

/-! ### Numbers -/

/-- A decimal by its digits and the places behind the point. -/
structure Decimal where
  value : Int
  places : Nat

/-- Reads a decimal. -/
def decimal? (text : String) : Option Decimal :=
  let (negative, front) := Numeral.splitSign text.toList
  let whole := front.takeWhile Char.isDigit
  let behind := front.dropWhile Char.isDigit
  let (fraction, behind) :=
    match behind with
    | '.' :: rest => (rest.takeWhile Char.isDigit, rest.dropWhile Char.isDigit)
    | _ => ([], behind)
  if !behind.isEmpty || (whole.isEmpty && fraction.isEmpty) then none
  else
    let size : Int := (Numeral.digits 10 0 (whole ++ fraction)).1
    some ⟨if negative then -size else size, fraction.length⟩

/-- How many numbers a sequence may have. -/
def longestSequence : Nat := 200000

/-- `seq`: the numbers from a first to a last one. -/
def sequence : Program := fun invocation => do
  let table : OptionTable :=
    ⟨"w", "sf", [("separator", 's'), ("equal-width", 'w'), ("format", 'f')]⟩
  let isNumber (text : String) : Bool := (decimal? text).isSome
  let options := invocation.arguments.takeWhile fun text => !isNumber text
  let numbers := invocation.arguments.drop options.length
  match table.parse true none options with
  | .error message =>
    -- The separator may itself look like a number.
    match table.parse false none invocation.arguments with
    | .ok parsed => go invocation parsed parsed.operands
    | .error _ => invocation.refuse message 1
  | .ok parsed => go invocation parsed (parsed.operands ++ numbers)
where
  go (invocation : Invocation) (parsed : Parsed) (numbers : List String) : Act ProcessStatus := do
    match numbers.mapM fun text => (decimal? text).map fun number => (text, number) with
    | none =>
      let wrong := (numbers.find? fun text => (decimal? text).isNone).getD ""
      invocation.refuse s!"invalid floating point argument: '{wrong}'" 1
    | some numbers =>
      match numbers.map Prod.snd with
      | [] => invocation.refuse "missing operand" 1
      | [last] => print invocation parsed ⟨1, 0⟩ ⟨1, 0⟩ last
      | [first, last] => print invocation parsed first ⟨1, 0⟩ last
      | [first, step, last] =>
        if step.value = 0 then
          let text := (numbers.map Prod.fst)[1]?.getD ""
          invocation.refuse s!"invalid Zero increment value: '{text}'" 1
        else print invocation parsed first step last
      | _ :: _ :: _ :: _ :: _ =>
        let extra := (numbers.map Prod.fst)[3]?.getD ""
        invocation.refuse s!"extra operand '{extra}'" 1
  print (invocation : Invocation) (parsed : Parsed) (first step last : Decimal) :
      Act ProcessStatus := do
    let places := max first.places step.places
    let scale := max places last.places
    let at_ (number : Decimal) : Int := number.value * Nat.pow 10 (scale - number.places)
    let low := at_ first
    let width := at_ step
    let high := at_ last
    let count : Nat :=
      if 0 < width then (if high < low then 0 else ((high - low) / width).toNat + 1)
      else if low < high then 0
      else ((low - high) / -width).toNat + 1
    let write (value : Int) : String :=
      let text := (⟨value < 0, value.natAbs, Nat.pow 10 scale⟩ : Quotient).fixed places false
      (if value < 0 then "-" else "") ++ text
    let values := (List.range (min count longestSequence)).map fun (index : Nat) =>
      low + width * (index : Int)
    let texts := values.map write
    let widest := (texts.map String.length).foldl max 0
    let pad (text : String) : String :=
      match text.toList with
      | '-' :: digits => "-" ++ "".pushn '0' (widest - text.length) ++ String.ofList digits
      | _ => "".pushn '0' (widest - text.length) ++ text
    let texts := if parsed.has 'w' then texts.map pad else texts
    let texts :=
      match parsed.value? 'f' with
      | some format => texts.map fun text => (printFormat .system format [text]).output
      | none => texts
    let separator := (parsed.value? 's').getD "\n"
    if texts.isEmpty then return .exited 0
    else invocation.print (separator.intercalate texts ++ "\n") 0

end EntryTree.Command
