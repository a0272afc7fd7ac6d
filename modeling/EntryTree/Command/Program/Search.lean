import EntryTree.Command.Program.Regular
import EntryTree.Command.Program.Stream

/-!
# Programs that search

Programs that look for expressions: in lines, to select or to edit them, and in a text.
-/

namespace EntryTree.Command

/-! ### Selecting lines -/

/-- Finds a text in a line: what is in front of it, the text, and what is behind it. -/
def findText (ignoreCase : Bool) (pattern line : List Char) :
    Option (List Char × List Char × List Char) :=
  match line with
  | [] => if pattern.isEmpty then some ([], [], []) else none
  | c :: rest =>
    let start := (c :: rest).take pattern.length
    let matching :=
      if ignoreCase then start.map Char.toLower == pattern.map Char.toLower else start == pattern
    if matching then some ([], start, (c :: rest).drop pattern.length)
    else
      (findText ignoreCase pattern rest).map fun (front, found, behind) =>
        (c :: front, found, behind)

/-- A search for one of several patterns. -/
def searchFor (fixed extended ignoreCase whole words : Bool) (patterns : List String) :
    Option (String → Option (String × String × String)) := do
  let searches ← patterns.mapM fun pattern =>
    if fixed then
      some fun (line : String) =>
        (findText ignoreCase pattern.toList line.toList).map fun (front, found, behind) =>
          (String.ofList front, String.ofList found, String.ofList behind)
    else
      let bars :=
        if whole then (if extended then s!"^({pattern})$" else s!"^\\({pattern}\\)$") else pattern
      (Regular.read? extended ignoreCase bars).map fun regular (line : String) =>
        (regular.find? line).map fun (start, stop) =>
          (String.ofList start.before.reverse, Regular.between start stop,
            String.ofList stop.behind)
  let isWord (c : Char) : Bool := c.isAlphanum || c == '_'
  let proper (found : String × String × String) : Bool :=
    let (front, _, behind) := found
    (!words || (!((front.toList.getLast?.map isWord).getD false) &&
      !((behind.toList.head?.map isWord).getD false))) &&
    (!(fixed && whole) || (front.isEmpty && behind.isEmpty))
  return fun line => searches.findSome? fun search => (search line).filter proper

/-- All matches in a line, one behind another. -/
def allMatches (found : String → Option (String × String × String)) : Nat → String → List String
  | 0, _ => []
  | steps + 1, line =>
    match found line with
    | some (_, text, behind) =>
      if text.isEmpty then
        match behind.toList with
        | _ :: rest => allMatches found steps (String.ofList rest)
        | [] => []
      else text :: allMatches found steps behind
    | none => []

/-- `grep`: the lines in which a pattern is found. -/
def grep : Program := fun invocation => do
  let table : OptionTable :=
    ⟨"EFGivcqsnoxwhHl", "emABC", [("extended-regexp", 'E'), ("fixed-strings", 'F'),
      ("ignore-case", 'i'), ("invert-match", 'v'), ("count", 'c'), ("quiet", 'q'), ("silent", 'q'),
      ("line-number", 'n'), ("only-matching", 'o'), ("regexp", 'e'), ("max-count", 'm'),
      ("files-with-matches", 'l'), ("after-context", 'A'), ("before-context", 'B'),
      ("context", 'C')]⟩
  let usage : Act ProcessStatus := do
    let name := invocation.name
    invocation.complain (s!"Usage: {name} [OPTION]... PATTERNS [FILE]...\n" ++
      s!"Try '{name} --help' for more information.\n")
    return .exited 2
  match table.parse true none invocation.arguments with
  | .error message =>
    invocation.complain s!"{invocation.name}: {message}\n"
    usage
  | .ok parsed =>
    let given := parsed.options.filterMap fun (option, value) =>
      if option == 'e' then some value else none
    let (patterns, names) :=
      if given.isEmpty then (parsed.operands.take 1, parsed.operands.drop 1)
      else (given, parsed.operands)
    if patterns.isEmpty then usage
    else
      let patterns := patterns.flatMap fun pattern => pattern.splitToList (· == '\n')
      let fixed := parsed.has 'F' || invocation.shortName = "fgrep"
      let extended := parsed.has 'E' || invocation.shortName = "egrep"
      let search? := searchFor fixed extended (parsed.has 'i') (parsed.has 'x') (parsed.has 'w')
      match search? patterns with
      | none => invocation.fail "Invalid regular expression" 2
      | some found =>
        let (texts, code) ← readInputs invocation names plainComplaint
        let titled := parsed.has 'H' || (1 < names.length && !parsed.has 'h')
        let mut any := false
        for (name, text) in texts do
          let lines := (linesOf text).zipIdx.filter fun (line, _) =>
            (found line).isSome != parsed.has 'v'
          let lines :=
            match (parsed.value? 'm').bind String.toNat? with
            | some limit => lines.take limit
            | none => lines
          if !lines.isEmpty then any := true
          let shown := if name = "-" then "(standard input)" else name
          let title := if titled then shown ++ ":" else ""
          let write (line : String) (index : Nat) : String :=
            title ++ (if parsed.has 'n' then s!"{index + 1}:" else "") ++ line ++ "\n"
          let beside (line : String) (index : Nat) : String :=
            (if titled then shown ++ "-" else "") ++
              (if parsed.has 'n' then s!"{index + 1}-" else "") ++ line ++ "\n"
          let reach (option : Char) : Nat :=
            (((parsed.value? option).or (parsed.value? 'C')).bind String.toNat?).getD 0
          let output :=
            if parsed.has 'q' then ""
            else if parsed.has 'l' then if lines.isEmpty then "" else shown ++ "\n"
            else if parsed.has 'c' then s!"{title}{lines.length}\n"
            else if parsed.has 'o' then
              String.join (lines.flatMap fun (line, index) =>
                (allMatches found (line.length + 1) line).map (write · index))
            else if reach 'A' + reach 'B' = 0 then
              String.join (lines.map fun (line, index) => write line index)
            else
              let places := lines.map Prod.snd
              let near (index : Nat) : Bool := places.any fun place =>
                place ≤ index + reach 'B' && index ≤ place + reach 'A'
              let parts := ((linesOf text).zipIdx.filter (near ·.2)).map fun (line, index) =>
                (if places.contains index then write line index else beside line index, index)
              let (output, _) := parts.foldl (fun (output, next) (part, index) =>
                let gap := if output.isEmpty || index = next then "" else "--\n"
                (output ++ gap ++ part, index + 1)) ("", 0)
              output
          discard (invocation.print output 0)
        if any && parsed.has 'q' then return .exited 0
        else if 0 < code then return .exited 2
        else return .exited (if any then 0 else 1)

/-! ### Editing lines -/

/-- What tells a line. -/
inductive Address
  | number (line : Nat)
  | last
  | expression (regular : Regular)

/-- What is done with a line. -/
inductive Edit
  | substitute (regular : Regular) (replacement : List Char) (everywhere shown : Bool) (first : Nat)
  | print
  | delete
  | quit
  | number
  | exchange (pairs : List (Char × Char))
  | append (text : String)
  | insert (text : String)
  | change (text : String)

/-- An edit and the lines that it is for. -/
structure Step where
  first : Option Address
  last : Option Address
  negated : Bool
  edit : Edit

/-- Takes a text up to a delimiter without a backslash. -/
def delimited (delimiter : Char) : List Char → Option (List Char × List Char)
  | [] => none
  | '\\' :: c :: rest =>
    (delimited delimiter rest).map fun (text, rest) =>
      (if c = delimiter then c :: text else '\\' :: c :: text, rest)
  | c :: rest =>
    if c = delimiter then some ([], rest)
    else (delimited delimiter rest).map fun (text, rest) => (c :: text, rest)

/-- A mistake in a script of edits, and what is left of the script behind it. -/
structure EditFault where
  message : String
  rest : List Char

/-- Reads a regular expression, given what is behind it. -/
def readRegular (extended ignoreCase : Bool) (pattern rest : List Char) :
    Except EditFault Regular :=
  match Regular.read? extended ignoreCase (String.ofList pattern) with
  | some regular => .ok regular
  | none => .error ⟨"Invalid preceding regular expression", rest⟩

/-- Reads an address, if there is one. -/
def readAddress (extended : Bool) (text : List Char) :
    Except EditFault (Option Address × List Char) :=
  match text with
  | '$' :: rest => .ok (some .last, rest)
  | '/' :: rest =>
    match delimited '/' rest with
    | none => .error ⟨"unterminated address regex", []⟩
    | some (pattern, rest) => do
      return (some (.expression (← readRegular extended false pattern rest)), rest)
  | c :: rest =>
    if c.isDigit then
      let (number, rest) := Numeral.digits 10 0 (c :: rest)
      .ok (some (.number number), rest)
    else .ok (none, c :: rest)
  | [] => .ok (none, [])

/-- Reads the two parts of an edit between delimiters. -/
def readParts (name : Char) : List Char → Except EditFault (List Char × List Char × List Char)
  | [] => unterminated
  | delimiter :: rest =>
    match delimited delimiter rest with
    | none => unterminated
    | some (first, rest) =>
      match delimited delimiter rest with
      | none => unterminated
      | some (second, rest) => .ok (first, second, rest)
where
  unterminated : Except EditFault (List Char × List Char × List Char) :=
    .error ⟨s!"unterminated \x60{name}' command", []⟩

/-- Reads an edit. -/
def readEdit (extended : Bool) (text : List Char) : Except EditFault (Edit × List Char) :=
  match text.dropWhile (· == ' ') with
  | 'p' :: rest => .ok (.print, rest)
  | 'd' :: rest => .ok (.delete, rest)
  | 'q' :: rest => .ok (.quit, rest)
  | '=' :: rest => .ok (.number, rest)
  | 'a' :: rest => withText rest .append
  | 'i' :: rest => withText rest .insert
  | 'c' :: rest => withText rest .change
  | 'y' :: rest => do
    let (from_, into, rest) ← readParts 'y' rest
    if from_.length != into.length then
      throw ⟨"strings for \x60y' command are different lengths", rest⟩
    return (.exchange (from_.zip into), rest)
  | 's' :: rest => do
    let (pattern, replacement, rest) ← readParts 's' rest
    let flags := rest.takeWhile Char.isAlphanum
    let ignoreCase := flags.contains 'i' || flags.contains 'I'
    let known := ['g', 'p', 'i', 'I', 'm', 'M', 'e', 'w']
    if let some wrong := flags.find? fun c => !c.isDigit && !known.contains c then
      throw ⟨"unknown option to \x60s'", (rest.dropWhile (· != wrong)).tail⟩
    let behind := rest.dropWhile Char.isAlphanum
    let regular ← readRegular extended ignoreCase pattern behind
    let first := (Numeral.digits 10 0 (flags.filter Char.isDigit)).1
    return (.substitute regular replacement (flags.contains 'g') (flags.contains 'p') (max first 1),
      behind)
  | [] => .error ⟨"missing command", []⟩
  | c :: rest => .error ⟨s!"unknown command: \x60{c}'", rest⟩
where
  withText (rest : List Char) (edit : String → Edit) : Except EditFault (Edit × List Char) :=
    let text := rest.dropWhile (· == ' ')
    let text :=
      match text with
      | '\\' :: '\n' :: rest => rest
      | '\\' :: rest => rest
      | rest => rest
    if rest.isEmpty then .error ⟨"expected \\ after \x60a', \x60c' or \x60i'", []⟩
    else .ok (edit (String.ofList (text.takeWhile (· != '\n'))), text.dropWhile (· != '\n'))

/-- Reads the steps of a script. -/
def readSteps (extended : Bool) : Nat → List Char → Except EditFault (List Step)
  | 0, _ => .ok []
  | steps + 1, text =>
    let text := text.dropWhile fun c => c == ' ' || c == ';' || c == '\n'
    if text.isEmpty then .ok []
    else do
      let (first, rest) ← readAddress extended text
      let (last, rest) ←
        match rest with
        | ',' :: rest => readAddress extended rest
        | rest => .ok (none, rest)
      let rest := rest.dropWhile (· == ' ')
      let (negated, rest) :=
        match rest with
        | '!' :: rest => (true, rest)
        | rest => (false, rest)
      let (edit, rest) ← readEdit extended rest
      match rest.dropWhile (· == ' ') with
      | [] | ';' :: _ | '\n' :: _ | '\x7d' :: _ | '#' :: _ => pure ()
      | _ :: rest => throw ⟨"extra characters after command", rest⟩
      let others ← readSteps extended steps rest
      return ⟨first, last, negated, edit⟩ :: others

/-- The text that replaces a match. -/
def replacementText (start stop : Regular.Place) : List Char → List Char
  | '\\' :: 'n' :: rest => '\n' :: replacementText start stop rest
  | '\\' :: c :: rest =>
    if c.isDigit then
      let number := c.toNat - '0'.toNat
      let text :=
        if number = 0 then (Regular.between start stop).toList
        else (stop.groups.lookup number).getD []
      text ++ replacementText start stop rest
    else c :: replacementText start stop rest
  | '&' :: rest => (Regular.between start stop).toList ++ replacementText start stop rest
  | c :: rest => c :: replacementText start stop rest
  | [] => []

/-- Replaces matches in a line behind a place: from the `count`-th one on, all or one. -/
def substitute (regular : Regular) (replacement : List Char) (everywhere : Bool) :
    Nat → Nat → Regular.Place → List Char × Bool
  | 0, _, place => (place.behind, false)
  | steps + 1, count, place =>
    match regular.search? (place.behind.length + 1) place with
    | none => (place.behind, false)
    | some (start, stop) =>
      let front := place.behind.take (place.behind.length - start.behind.length)
      let found := (Regular.between start stop).toList
      let written := if count ≤ 1 then replacementText start stop replacement else found
      if count ≤ 1 && !everywhere then (front ++ written ++ stop.behind, true)
      else
        let (stepped, next) :=
          match found, stop.behind with
          | [], c :: rest => ([c], { stop with before := c :: stop.before, behind := rest })
          | _, _ => ([], stop)
        if found.isEmpty && stop.behind.isEmpty then (front ++ written, count ≤ 1)
        else
          let (rest, changed) := substitute regular replacement everywhere steps (count - 1) next
          (front ++ written ++ stepped ++ rest, changed || count ≤ 1)

/-- Whether an address tells a line. -/
def Address.tells (address : Address) (number : Nat) (last : Bool) (line : String) : Bool :=
  match address with
  | .number wanted => wanted == number
  | .last => last
  | .expression regular => (regular.find? line).isSome

/-- What editing a line has come to. -/
structure Edited where
  line : String
  output : List String
  later : List String
  deleted : Bool
  quit : Bool

/-- Carries out an edit. -/
def Edited.apply (edited : Edited) (number : Nat) (edit : Edit) : Edited :=
  match edit with
  | .substitute regular replacement everywhere shown first =>
    let place : Regular.Place := ⟨[], edited.line.toList, []⟩
    let (text, changed) :=
      substitute regular replacement everywhere (edited.line.length + 2) first place
    let line := String.ofList text
    let output := if changed && shown then edited.output ++ [line] else edited.output
    { edited with line, output }
  | .print => { edited with output := edited.output ++ [edited.line] }
  | .delete => { edited with deleted := true }
  | .quit => { edited with quit := true }
  | .number => { edited with output := edited.output ++ [toString number] }
  | .exchange pairs =>
    { edited with line := String.ofList (edited.line.toList.map fun c => (pairs.lookup c).getD c) }
  | .append text => { edited with later := edited.later ++ [text] }
  | .insert text => { edited with output := edited.output ++ [text] }
  | .change text => { edited with output := edited.output ++ [text], deleted := true }

/-- Edits a line by the steps; `active` tells which ranges of lines are open. -/
def editLine (number : Nat) (last : Bool) :
    List Step → List Bool → Edited → Edited × List Bool
  | [], _, edited => (edited, [])
  | step :: steps, active, edited =>
    let isActive := active.head?.getD false
    if edited.deleted || edited.quit then
      let (edited, others) := editLine number last steps active.tail edited
      (edited, isActive :: others)
    else
      let (selected, isActive) :=
        match step.first, step.last with
        | none, _ => (true, false)
        | some first, none => (first.tells number last edited.line, false)
        | some first, some final =>
          if isActive then
            let past :=
              match final with
              | .number wanted => decide (wanted < number)
              | _ => false
            if past then (false, false) else (true, !final.tells number last edited.line)
          else if first.tells number last edited.line then
            let single :=
              match final with
              | .number wanted => decide (wanted ≤ number)
              | .last => last
              | .expression _ => false
            (true, !single)
          else (false, false)
      let edited := if selected != step.negated then edited.apply number step.edit else edited
      let (edited, others) := editLine number last steps active.tail edited
      (edited, isActive :: others)

/-- Edits lines one after another. -/
def editLines (quiet : Bool) (steps : List Step) : Nat → List Bool → List String → String
  | _, _, [] => ""
  | number, active, line :: rest =>
    let (edited, active) :=
      editLine number rest.isEmpty steps active ⟨dropEnd line, [], [], false, false⟩
    let ending := if line.endsWith "\n" then "\n" else ""
    let shown := if quiet || edited.deleted then "" else edited.line ++ ending
    let output := joinLines edited.output ++ shown ++ joinLines edited.later
    if edited.quit then output else output ++ editLines quiet steps (number + 1) active rest

/-- `sed`: the lines, edited. -/
def editStream : Program := fun invocation =>
  let table : OptionTable :=
    ⟨"nErsuz", "e",
      [("quiet", 'n'), ("silent", 'n'), ("expression", 'e'), ("regexp-extended", 'E')]⟩
  invocation.withOptions table 1 fun parsed => do
    let given := parsed.options.filterMap fun (option, value) =>
      if option == 'e' then some value else none
    let (scripts, names) :=
      if given.isEmpty then (parsed.operands.take 1, parsed.operands.drop 1)
      else (given, parsed.operands)
    let script := "\n".intercalate scripts
    match readSteps (parsed.has 'E' || parsed.has 'r') (script.length + 1) script.toList with
    | .error fault =>
      let place := script.length - fault.rest.length
      invocation.fail s!"-e expression #1, char {place}: {fault.message}" 1
    | .ok steps =>
      let (texts, code) ← readInputs invocation names
        fun name message => s!"can't read {name}: {message}"
      let lines := fullLines (String.join (texts.map Prod.snd))
      invocation.print (editLines (parsed.has 'n') steps 1 [] lines) (if 0 < code then 2 else 0)

/-! ### Expressions on arguments -/

/-- Why an expression has no value. -/
structure ExpressionFault where
  message : String
  code : Nat

/-- Reads an integer argument. -/
def integer? (text : String) : Option Int :=
  match text.toList with
  | '-' :: c :: rest =>
    if (c :: rest).all Char.isDigit then some (-(Numeral.digits 10 0 (c :: rest)).1 : Int) else none
  | c :: rest =>
    if (c :: rest).all Char.isDigit then some (Numeral.digits 10 0 (c :: rest)).1 else none
  | [] => none

/-- The operators of every level, the loosest first. -/
def expressionLevels : List (List String) :=
  [["|"], ["&"], ["<", "<=", "=", "==", "!=", ">=", ">"], ["+", "-"], ["*", "/", "%"], [":"]]

/-- Whether a value counts as nothing. -/
def isNull (text : String) : Bool :=
  text.isEmpty || integer? text = some 0

/-- The value of a match: the group in it, or how long it is. -/
def matchValue (text pattern : String) : String :=
  match Regular.read? false false pattern with
  | none => ""
  | some regular =>
    let grouped := (pattern.splitOn "\\(").length ≠ 1
    match regular.matchAt? ⟨[], text.toList, []⟩ with
    | some stop =>
      if grouped then String.ofList ((stop.groups.lookup 1).getD [])
      else toString (text.length - stop.behind.length)
    | none => if grouped then "" else "0"

/-- Applies an operator. -/
def applyOperator (operator first second : String) : Except ExpressionFault String := do
  let numbers (apply : Int → Int → Except ExpressionFault Int) : Except ExpressionFault String :=
    match integer? first, integer? second with
    | some first, some second => (apply first second).map toString
    | _, _ => .error ⟨"non-integer argument", 2⟩
  let compared (test : Ordering → Bool) : Except ExpressionFault String :=
    let order :=
      match integer? first, integer? second with
      | some first, some second => compare first second
      | _, _ => compare first second
    .ok (if test order then "1" else "0")
  match operator with
  | "|" => return if isNull first then (if isNull second then "0" else second) else first
  | "&" => return if isNull first || isNull second then "0" else first
  | "+" => numbers fun first second => .ok (first + second)
  | "-" => numbers fun first second => .ok (first - second)
  | "*" => numbers fun first second => .ok (first * second)
  | "/" => numbers fun first second =>
    if second = 0 then .error ⟨"division by zero", 2⟩ else .ok (first.tdiv second)
  | "%" => numbers fun first second =>
    if second = 0 then .error ⟨"division by zero", 2⟩ else .ok (first.tmod second)
  | "<" => compared (· == .lt)
  | "<=" => compared (· != .gt)
  | "=" => compared (· == .eq)
  | "==" => compared (· == .eq)
  | "!=" => compared (· != .eq)
  | ">=" => compared (· != .lt)
  | ">" => compared (· == .gt)
  | _ => return matchValue first second

/-- Evaluates an expression of a level; what is left. Every step goes down a level or takes a
word. -/
def evaluateWords : Nat → List (List String) → Option String → List String →
    Except ExpressionFault (String × List String)
  | 0, _, _, _ => .error ⟨"expression too long", 3⟩
  | steps + 1, [], _, words =>
    match words with
    | [] => .error ⟨"missing operand", 2⟩
    | "(" :: rest => do
      let (value, rest) ← evaluateWords steps expressionLevels none rest
      match rest with
      | ")" :: rest => return (value, rest)
      | [] => throw ⟨s!"syntax error: expecting ')' after '{value}'", 2⟩
      | word :: _ => throw ⟨s!"syntax error: expecting ')' instead of '{word}'", 2⟩
    | "length" :: word :: rest => .ok (toString word.length, rest)
    | "match" :: text :: pattern :: rest => .ok (matchValue text pattern, rest)
    | "substr" :: text :: start :: count :: rest =>
      match integer? start, integer? count with
      | some start, some count =>
        if start ≤ 0 || count ≤ 0 then .ok ("", rest)
        else .ok (String.ofList ((text.toList.drop (start.toNat - 1)).take count.toNat), rest)
      | _, _ => .ok ("", rest)
    | "index" :: text :: set :: rest =>
      let found := text.toList.findIdx? fun c => set.contains c
      .ok (toString ((found.map (· + 1)).getD 0), rest)
    | word :: rest => .ok (word, rest)
  | steps + 1, level :: levels, given, words => do
    let (first, rest) ←
      match given with
      | some value => pure (value, words)
      | none => evaluateWords steps levels none words
    match rest with
    | operator :: behind =>
      if level.contains operator then
        if behind.isEmpty then throw ⟨s!"syntax error: missing argument after '{operator}'", 2⟩
        let (second, rest) ← evaluateWords steps levels none behind
        let value ← applyOperator operator first second
        evaluateWords steps (level :: levels) (some value) rest
      else return (first, rest)
    | [] => return (first, [])

/-- `expr`: the value of an expression. -/
def expression : Program := fun invocation => do
  let words :=
    match invocation.arguments with
    | "--" :: rest => rest
    | arguments => arguments
  if words.isEmpty then invocation.refuse "missing operand" 2
  else
    match evaluateWords (16 * words.length + 16) expressionLevels none words with
    | .error fault => invocation.fail fault.message fault.code
    | .ok (value, []) => invocation.print (value ++ "\n") (if isNull value then 1 else 0)
    | .ok (_, word :: _) => invocation.fail s!"syntax error: unexpected argument '{word}'" 2

end EntryTree.Command
