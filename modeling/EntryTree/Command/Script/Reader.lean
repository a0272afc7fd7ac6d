import EntryTree.Command.Script.Basic

/-!
# Reading shell scripts

A script is read line by line. A line ends where a list of commands is complete, so that a mistake
in a later line does not keep an earlier one from being run. Reading words and reading commands
depend on one another, since the output of a script may be part of a word; both are taken from a
ladder of readers, of which every rung reads at least one character before it uses the next.
-/

namespace EntryTree.Command

/-- A mistake in a script and the line it was noticed in. -/
structure Misreading where
  line : Nat
  message : String

/-- The parts that commands are made of. -/
inductive Lexeme
  | ending
  | newline
  | operator (text : String)
  | keyword (text : String)
  | word (pieces : Word)
  | redirection (redirection : Redirection)

namespace Lexeme

/-- How complaints call a lexeme. -/
def describe : Lexeme → String
  | .ending => "end of file"
  | .newline => "newline"
  | .operator text => s!"\"{text}\""
  | .keyword text => s!"\"{text}\""
  | .word _ => "word"
  | .redirection _ => "redirection"

end Lexeme

/-- What is left of a script. -/
structure Source where
  characters : List Char
  line : Nat
  /-- The lines that were taken out behind the current one. -/
  removed : Nat
  /-- A lexeme that was read and put back. -/
  back : Option Lexeme

/-- Reads something off a script. -/
abbrev Reading := StateT Source (Except Misreading)

namespace Reading

/-- Gives up with a complaint about the current line. -/
def misread {α : Type} (message : String) : Reading α := do
  let source ← get
  throw ⟨source.line, s!"Syntax error: {message}"⟩

/-- The next character, which stays. -/
def peek : Reading (Option Char) :=
  return (← get).characters.head?

/-- Reads a character. -/
def skip : Reading Unit :=
  modify fun source =>
    match source.characters with
    | '\n' :: rest =>
      { source with characters := rest, line := source.line + 1 + source.removed, removed := 0 }
    | _ :: rest => { source with characters := rest }
    | [] => source

/-- Reads a given character if it is next. -/
def take (c : Char) : Reading Bool := do
  if (← peek) = some c then
    skip
    return true
  else
    return false

/-- Reads characters as long as they satisfy a test, none of which may end a line. -/
def takeWhile (accepted : Char → Bool) : Reading String :=
  modifyGet fun source =>
    (String.ofList (source.characters.takeWhile accepted),
      { source with characters := source.characters.dropWhile accepted })

/-- Reads up to a closing character, which is read as well; lines are counted. -/
def takeUntil (closing : Char) (message : String) : Reading String := do
  let source ← get
  let inside := source.characters.takeWhile (· != closing)
  let lines := inside.count '\n'
  match source.characters.dropWhile (· != closing) with
  | _ :: rest =>
    set { source with
      characters := rest, line := source.line + lines + (if lines = 0 then 0 else source.removed),
      removed := if lines = 0 then source.removed else 0 }
    return String.ofList inside
  | [] =>
    set { source with characters := [], line := source.line + lines }
    misread message

end Reading

open Reading

/-- Whether a character may stand in a name. -/
def isNameCharacter (c : Char) : Bool :=
  c.isAlphanum || c == '_'

/-- Whether a text is a name. -/
def isName (text : String) : Bool :=
  match text.toList with
  | [] => false
  | c :: rest => !c.isDigit && (c :: rest).all isNameCharacter

/-- The characters that name a parameter on their own. -/
def specialParameters : List Char :=
  ['@', '*', '#', '?', '-', '$', '!']

/-- The characters that end a word. -/
def wordEnds : List Char :=
  [' ', '\t', '\n', ';', '&', '|', '<', '>', '(', ')']

/-- The words that have a meaning of their own where a command may begin. -/
def keywords : List String :=
  ["!", "case", "do", "done", "elif", "else", "esac", "fi", "for", "if", "in", "then", "until",
    "while", "\x7b", "\x7d"]

/-- What the pieces that are being read are enclosed in. -/
inductive Closing
  /-- Nothing: the end of the word. -/
  | word
  | quote
  | brace
  /-- Two parentheses, behind others that are still open. -/
  | arithmetic (open_ : Nat)
  /-- Nothing: the end of the text. -/
  | text
  deriving DecidableEq

/-- Where pieces are read: what closes them, and whether they are quoted. -/
structure Region where
  closing : Closing
  quoted : Bool

/-- How far a list of commands goes. -/
inductive Extent
  /-- To the end of a line. -/
  | line
  /-- To what closes the list, with one command at least. -/
  | body
  /-- To what closes the list. -/
  | optional
  deriving DecidableEq

/-- The readers of one rung. -/
structure Readers where
  /-- The pieces up to the end of a region. -/
  pieces : Region → Reading Word
  /-- The commands up to a word or an operator that closes them. -/
  list : Extent → Reading Script
  /-- A command, behind ends of lines or not. -/
  command : Bool → Reading Script

namespace Readers

/-! ### Words -/

/-- Undoes the backslashes inside backward quotes. -/
def unescapeBackward (quoted : Bool) : List Char → List Char
  | '\\' :: c :: rest =>
    if c = '`' || c = '\\' || c = '$' || (quoted && c = '"') then c :: unescapeBackward quoted rest
    else '\\' :: c :: unescapeBackward quoted rest
  | c :: rest => c :: unescapeBackward quoted rest
  | [] => []

/-- The text up to a backward quote without a backslash, and what is behind it. -/
def splitBackward : List Char → Option (List Char × List Char)
  | '`' :: rest => some ([], rest)
  | '\\' :: c :: rest => (splitBackward rest).map fun (text, rest) => ('\\' :: c :: text, rest)
  | c :: rest => (splitBackward rest).map fun (text, rest) => (c :: text, rest)
  | [] => none

/-- Reads a script up to its end as part of a word. -/
def backward (readers : Readers) (quoted : Bool) : Reading Piece := do
  let source ← get
  match splitBackward source.characters with
  | none => misread "EOF in backquote substitution"
  | some (text, rest) =>
    set { source with
      characters := unescapeBackward quoted text, removed := 0, back := none }
    let script ← readers.list .optional
    match (← get).back with
    | some .ending =>
      set { source with characters := rest, line := source.line + text.count '\n' }
      return .output script quoted
    | some lexeme => misread s!"{lexeme.describe} unexpected"
    | none => misread "end of file unexpected"

/-- Reads the name of a parameter. -/
def parameterName : Reading String := do
  match ← peek with
  | some c =>
    if c.isDigit then takeWhile Char.isDigit
    else if isNameCharacter c then takeWhile isNameCharacter
    else if specialParameters.contains c then
      skip
      return String.singleton c
    else return ""
  | none => return ""

/-- Reads what a word in braces does with its parameter, up to the closing brace. -/
def parameterUse (readers : Readers) (quoted : Bool) : Reading ParameterUse := do
  let region : Region := ⟨.brace, quoted⟩
  let pattern : Region := ⟨.brace, false⟩
  let emptyToo ← take ':'
  match ← peek with
  | some '-' => skip; return .orElse emptyToo (← readers.pieces region)
  | some '=' => skip; return .orAssign emptyToo (← readers.pieces region)
  | some '?' => skip; return .orFail emptyToo (← readers.pieces region)
  | some '+' => skip; return .instead emptyToo (← readers.pieces region)
  | some '%' =>
    skip
    let longest ← take '%'
    if emptyToo then return .bad else return .trim true longest (← readers.pieces pattern)
  | some '#' =>
    skip
    let longest ← take '#'
    if emptyToo then return .bad else return .trim false longest (← readers.pieces pattern)
  | some '\x7d' => skip; return if emptyToo then .bad else .value
  | some _ =>
    let _ ← readers.pieces region
    return .bad
  | none => misread "Missing '\x7d'"

/-- Reads a parameter in braces behind the opening one. -/
def braced (readers : Readers) (quoted : Bool) : Reading Piece := do
  let source ← get
  match source.characters with
  | '#' :: c :: rest =>
    if isNameCharacter c || (specialParameters.contains c && rest.head? = some '\x7d') then
      skip
      let name ← parameterName
      if ← take '\x7d' then return .parameter name .length quoted
      else
        let _ ← readers.pieces ⟨.brace, quoted⟩
        return .parameter name .bad quoted
    else
      skip
      return .parameter "#" (← readers.parameterUse quoted) quoted
  | _ =>
    let name ← parameterName
    let use ← readers.parameterUse quoted
    return .parameter name (if name.isEmpty then .bad else use) quoted

/-- Reads what a dollar sign stands for, behind it. -/
def dollar (readers : Readers) (quoted : Bool) : Reading Piece := do
  let source ← get
  match source.characters with
  | '(' :: '(' :: _ =>
    skip
    skip
    return .arithmetic (← readers.pieces ⟨.arithmetic 0, true⟩) quoted
  | '(' :: _ =>
    skip
    set { (← get) with back := none }
    let script ← readers.list .optional
    match (← get).back with
    | some (.operator ")") =>
      set { (← get) with back := source.back }
      return .output script quoted
    | some lexeme => misread s!"{lexeme.describe} unexpected (expecting \")\")"
    | none => misread "end of file unexpected (expecting \")\")"
  | '\x7b' :: _ =>
    skip
    readers.braced quoted
  | c :: _ =>
    if isNameCharacter c || specialParameters.contains c then
      let name ←
        if c.isDigit then do
          skip
          pure (String.singleton c)
        else parameterName
      return .parameter name .value quoted
    else return .text "$" quoted
  | [] => return .text "$" quoted

/-- The characters that a backslash protects inside of quotes. -/
def protectedInQuotes (closing : Closing) : List Char :=
  match closing with
  | .quote => ['$', '`', '"', '\\']
  | .brace => ['$', '`', '"', '\\', '\x7d']
  | _ => ['$', '`', '\\']

/-- Whether pieces are only all parameters at once. -/
def isAllParameters : Word → Bool
  | [.parameter "@" .value _] => true
  | _ => false

/-- Reads a piece that begins with a character which does not close its region. -/
def piece (readers : Readers) (region : Region) (c : Char) : Reading Word := do
  let quoted := region.quoted
  skip
  if c = '\\' then
    match ← peek with
    | none => return [.text "\\" true]
    | some '\n' =>
      skip
      return []
    | some next =>
      if !quoted || (protectedInQuotes region.closing).contains next then
        skip
        return [.text (String.singleton next) true]
      else return [.text "\\" true]
  else if c = '$' then return [← readers.dollar quoted]
  else if c = '`' then return [← readers.backward quoted]
  else if c = '\'' && !quoted then
    return [.quotes, .text (← takeUntil '\'' "Unterminated quoted string") true]
  else if c = '"' && region.closing != .text then
    if region.closing matches .arithmetic _ then return []
    else
      let inside ← readers.pieces ⟨.quote, true⟩
      return if isAllParameters inside then inside else .quotes :: inside
  else return [.text (String.singleton c) quoted]

/-- What is missing at the end of a text inside a region. -/
def missing : Closing → Option String
  | .quote => some "Unterminated quoted string"
  | .brace => some "Missing '\x7d'"
  | .arithmetic _ => some "Missing '))'"
  | .word => none
  | .text => none

/-- The pieces up to the end of a region. -/
def readPieces (readers : Readers) (region : Region) : Reading Word := do
  match ← peek with
  | none =>
    match missing region.closing with
    | some message => misread message
    | none => return []
  | some c =>
    let further (region : Region) : Reading Word := do
      let first ← readers.piece region c
      return first ++ (← readers.pieces region)
    match region.closing with
    | .word => if wordEnds.contains c then return [] else further region
    | .quote =>
      if c = '"' then
        skip
        return []
      else further region
    | .brace =>
      if c = '\x7d' then
        skip
        return []
      else further region
    | .arithmetic depth =>
      if c = ')' then
        skip
        if depth = 0 then
          if ← take ')' then return [] else misread "Missing '))'"
        else return .text ")" true :: (← readers.pieces ⟨.arithmetic (depth - 1), true⟩)
      else if c = '(' then further ⟨.arithmetic (depth + 1), true⟩
      else further region
    | .text => further region

/-! ### Lexemes -/

/-- The text of a word without its quotes, if it is plain text; and whether it has quotes. -/
def plain? : Word → Option (String × Bool)
  | [] => some ("", false)
  | .text characters quoted :: word =>
    (plain? word).map fun (text, any) => (characters ++ text, quoted || any)
  | .quotes :: word => (plain? word).map fun (text, _) => (text, true)
  | _ => none

/-- Takes the lines of a document out of the text behind the current line. -/
def takeDocument (delimiter : String) (stripTabs : Bool) : Reading String :=
  modifyGet fun source =>
    let current := source.characters.takeWhile (· != '\n')
    let behind := (source.characters.dropWhile (· != '\n')).drop 1
    let (lines, count, rest) := cut behind (behind.length + 1)
    (String.ofList lines,
      { source with characters := current ++ '\n' :: rest, removed := source.removed + count })
where
  cut (behind : List Char) : Nat → List Char × Nat × List Char
    | 0 => ([], 0, behind)
    | steps + 1 =>
      if behind.isEmpty then ([], 0, [])
      else
        let line := behind.takeWhile (· != '\n')
        let rest := (behind.dropWhile (· != '\n')).drop 1
        let line := if stripTabs then line.dropWhile (· == '\t') else line
        if String.ofList line = delimiter then ([], 1, rest)
        else
          let (lines, count, rest) := cut rest steps
          let ending := if behind.contains '\n' then ['\n'] else []
          (line ++ ending ++ lines, count + 1, rest)

/-- Skips blanks, comments and lines that are continued. -/
def skipBlanks : Nat → Reading Unit
  | 0 => return
  | steps + 1 => do
    match (← get).characters with
    | ' ' :: _ => skip; skipBlanks steps
    | '\t' :: _ => skip; skipBlanks steps
    | '\\' :: '\n' :: _ => skip; skip; skipBlanks steps
    | '#' :: _ => discard (takeWhile (· != '\n'))
    | _ => return

/-- Reads the target of a redirection. -/
def target (readers : Readers) : Reading Word := do
  skipBlanks (← get).characters.length
  match (← get).characters with
  | [] => misread "end of file unexpected"
  | '\n' :: _ =>
    skip
    misread "newline unexpected"
  | c :: rest =>
    if wordEnds.contains c then
      let doubled := rest.head? = some c && c != '(' && c != ')'
      if c = '<' || c = '>' then misread "redirection unexpected"
      else misread s!"\"{if doubled then String.ofList [c, c] else String.singleton c}\" unexpected"
    else readers.pieces ⟨.word, false⟩

/-- Reads a redirection behind its descriptor. -/
def redirection (readers : Readers) (descriptor : Option Nat) : Reading Redirection := do
  let input := descriptor.getD 0
  let output := descriptor.getD 1
  let as (count descriptor : Nat) (mode : RedirectionMode) : Reading Redirection := do
    modify fun source => { source with characters := source.characters.drop count }
    return .mk descriptor mode (← readers.target)
  match (← get).characters with
  | '<' :: '<' :: rest =>
    let stripTabs := rest.head? = some '-'
    modify fun source => { source with characters := rest.drop (if stripTabs then 1 else 0) }
    let delimiter ← readers.target
    let (delimiter, quoted) := (plain? delimiter).getD ("", false)
    let document ← takeDocument delimiter stripTabs
    if quoted then return .mk input .document [.quotes, .text document true]
    else
      let source ← get
      set { source with characters := document.toList, removed := 0 }
      let pieces ← readers.pieces ⟨.text, true⟩
      set source
      return .mk input .document (.quotes :: pieces)
  | '<' :: '&' :: _ => as 2 input .duplicate
  | '<' :: '>' :: _ => as 2 input .readWrite
  | '<' :: _ => as 1 input .read
  | '>' :: '>' :: _ => as 2 output .append
  | '>' :: '&' :: _ => as 2 output .duplicate
  | '>' :: '|' :: _ => as 2 output .write
  | _ => as 1 output .write

/-- Reads a lexeme. -/
def freshLexeme (readers : Readers) : Reading Lexeme := do
  skipBlanks ((← get).characters.length + 1)
  let operator (text : String) : Reading Lexeme := do
    modify fun source => { source with characters := source.characters.drop text.length }
    return .operator text
  match (← get).characters with
  | [] => return .ending
  | '\n' :: _ => skip; return .newline
  | '&' :: '&' :: _ => operator "&&"
  | '|' :: '|' :: _ => operator "||"
  | ';' :: ';' :: _ => operator ";;"
  | '&' :: _ => operator "&"
  | '|' :: _ => operator "|"
  | ';' :: _ => operator ";"
  | '(' :: _ => operator "("
  | ')' :: _ => operator ")"
  | '<' :: _ => return .redirection (← readers.redirection none)
  | '>' :: _ => return .redirection (← readers.redirection none)
  | c :: next :: _ =>
    if c.isDigit && (next = '<' || next = '>') then
      skip
      return .redirection (← readers.redirection (some (c.toNat - '0'.toNat)))
    else return .word (← readers.pieces ⟨.word, false⟩)
  | _ => return .word (← readers.pieces ⟨.word, false⟩)

/-- Puts a lexeme back. -/
def putBack (lexeme : Lexeme) : Reading Unit :=
  modify fun source => { source with back := some lexeme }

/-- Reads the next lexeme, the one that was put back first. -/
def anyLexeme (readers : Readers) : Reading Lexeme := do
  match (← get).back with
  | some lexeme =>
    modify fun source => { source with back := none }
    return lexeme
  | none => readers.freshLexeme

/-- Makes a keyword of a word that is one. -/
def promote : Lexeme → Lexeme
  | .word pieces =>
    match plain? pieces with
    | some (text, false) => if keywords.contains text then .keyword text else .word pieces
    | _ => .word pieces
  | lexeme => lexeme

/-- Reads the next lexeme behind any ends of lines. -/
def lexemeBehindLines (readers : Readers) : Nat → Reading Lexeme
  | 0 => return .ending
  | steps + 1 => do
    match ← readers.anyLexeme with
    | .newline => lexemeBehindLines readers steps
    | lexeme => return lexeme

/-- Reads the next lexeme where a command may begin, behind ends of lines if asked to. -/
def leading (readers : Readers) (behindLines : Bool) : Reading Lexeme := do
  if behindLines then
    return promote (← readers.lexemeBehindLines ((← get).characters.length + 2))
  else return promote (← readers.anyLexeme)

/-! ### Commands -/

/-- Refuses a lexeme. -/
def unexpected {α : Type} (lexeme : Lexeme) (expected : Option String) : Reading α :=
  let expecting :=
    match expected with
    | some text => s!" (expecting {text})"
    | none => ""
  misread s!"{lexeme.describe} unexpected{expecting}"

/-- Reads a keyword. -/
def expectKeyword (readers : Readers) (text : String) (behindLines : Bool) :
    Reading Unit := do
  let lexeme ← readers.leading behindLines
  if lexeme matches .keyword _ then
    if lexeme.describe = s!"\"{text}\"" then return
  unexpected lexeme (some s!"\"{text}\"")

/-- Whether a lexeme closes a list of commands. -/
def closesList : Lexeme → Bool
  | .operator text => text = ")" || text = ";;"
  | .keyword text => ["do", "done", "elif", "else", "esac", "fi", "then", "\x7d"].contains text
  | .ending => true
  | _ => false

/-- Splits an assignment off a word: the name and the value. -/
def assignment? (word : Word) : Option (String × Word) :=
  let rec split (name : String) : Word → Option (String × Word)
    | .text characters false :: rest =>
      if characters = "=" then if isName name then some (name, rest) else none
      else split (name ++ characters) rest
    | _ => none
  split "" word

/-- Reads redirections. -/
def redirections (readers : Readers) : Nat → Reading (List Redirection)
  | 0 => return []
  | steps + 1 => do
    match ← readers.leading false with
    | .redirection redirection => return redirection :: (← redirections readers steps)
    | lexeme =>
      putBack lexeme
      return []

/-- What has been read of a simple command. -/
structure Draft where
  assignments : List (String × Word) := []
  words : List Word := []
  redirections : List Redirection := []

/-- Reads the rest of a simple command, or the definition of a function. -/
def simpleRest (readers : Readers) (line : Nat) (draft : Draft) : Nat → Reading Script
  | 0 => return .nothing
  | steps + 1 => do
    match ← readers.anyLexeme with
    | .word pieces =>
      match if draft.words.isEmpty then assignment? pieces else none with
      | some assignment =>
        let assignments := draft.assignments ++ [assignment]
        simpleRest readers line { draft with assignments } steps
      | none => simpleRest readers line { draft with words := draft.words ++ [pieces] } steps
    | .redirection redirection =>
      simpleRest readers line
        { draft with redirections := draft.redirections ++ [redirection] } steps
    | .operator "(" =>
      match draft.words, draft.assignments, draft.redirections with
      | [word], [], [] =>
        match ← readers.anyLexeme with
        | .operator ")" =>
          match plain? word with
          | some (name, false) =>
            if isName name && !specialNames.contains name then
              return .function name (← readers.command true)
            else misread "Bad function name"
          | _ => misread "Bad function name"
        | lexeme => unexpected lexeme (some "\")\"")
      | _, _, _ => unexpected (.operator "(") none
    | lexeme =>
      putBack lexeme
      return .simple line draft.assignments draft.words draft.redirections

/-- Reads the words of a loop up to the end of its line, which is read as well. -/
def loopWords (readers : Readers) : Nat → Reading (List Word)
  | 0 => return []
  | steps + 1 => do
    match ← readers.anyLexeme with
    | .word pieces => return pieces :: (← loopWords readers steps)
    | .newline => return []
    | .operator ";" => return []
    | lexeme => unexpected lexeme none

/-- Reads the patterns of a branch up to the parenthesis behind them, given the first one. -/
def patterns (readers : Readers) (first : Lexeme) : Nat → Reading (List Word)
  | 0 => return []
  | steps + 1 => do
    match first with
    | .word pieces =>
      match ← readers.anyLexeme with
      | .operator "|" =>
        let next ← readers.anyLexeme
        return pieces :: (← patterns readers next steps)
      | .operator ")" => return [pieces]
      | lexeme => unexpected lexeme (some "\")\"")
    | lexeme => unexpected lexeme (some "\")\"")

/-- Makes a word of a keyword again. -/
def demote : Lexeme → Lexeme
  | .keyword text => .word [.text text false]
  | lexeme => lexeme

/-- Reads the branches of a selection up to their end. -/
def branches (readers : Readers) : Nat → Reading (List (List Word × Script))
  | 0 => return []
  | steps + 1 => do
    match ← readers.leading true with
    | .keyword "esac" => return []
    | lexeme =>
      let first ←
        match lexeme with
        | .operator "(" => readers.anyLexeme
        | lexeme => pure (demote lexeme)
      let words ← readers.patterns first ((← get).characters.length + 2)
      let body ← readers.list .optional
      match ← readers.leading true with
      | .keyword "esac" => return [(words, body)]
      | .operator ";;" => return (words, body) :: (← branches readers steps)
      | lexeme => unexpected lexeme (some "\";;\"")

/-- Reads a choice behind its first word, up to its last one. -/
def choiceRest (readers : Readers) : Nat → Reading Script
  | 0 => return .nothing
  | steps + 1 => do
    let test ← readers.list .body
    readers.expectKeyword "then" false
    let yes ← readers.list .body
    match ← readers.leading false with
    | .keyword "elif" => return .choice test yes (← choiceRest readers steps)
    | .keyword "else" =>
      let no ← readers.list .body
      readers.expectKeyword "fi" false
      return .choice test yes no
    | .keyword "fi" => return .choice test yes .nothing
    | lexeme => unexpected lexeme (some "\"fi\"")

/-- Reads a loop behind its first word. -/
def loopRest (readers : Readers) (success : Bool) : Reading Script := do
  let test ← readers.list .body
  readers.expectKeyword "do" false
  let body ← readers.list .body
  readers.expectKeyword "done" false
  return .loop success test body

/-- Reads a loop over words behind its first word. -/
def eachRest (readers : Readers) (line : Nat) : Reading Script := do
  match ← readers.anyLexeme with
  | .word pieces =>
    match plain? pieces with
    | some (name, false) =>
      if !isName name then misread "Bad for loop variable"
      let words ←
        match ← readers.leading true with
        | .keyword "in" => readers.loopWords ((← get).characters.length + 2)
        | lexeme =>
          if !(lexeme matches .operator ";") then putBack lexeme
          pure [[.parameter "@" .value true]]
      readers.expectKeyword "do" true
      let body ← readers.list .body
      readers.expectKeyword "done" false
      return .each line name words body
    | _ => misread "Bad for loop variable"
  | _ => misread "Bad for loop variable"

/-- Reads a selection behind its first word. -/
def selectRest (readers : Readers) (line : Nat) : Reading Script := do
  match ← readers.anyLexeme with
  | .word pieces =>
    readers.expectKeyword "in" true
    return .select line pieces (← readers.branches ((← get).characters.length + 2))
  | lexeme => unexpected lexeme (some "word")

/-- Adds the redirections behind a compound command. -/
def withRedirections (readers : Readers) (line : Nat) (body : Script) : Reading Script := do
  match ← readers.redirections ((← get).characters.length + 2) with
  | [] => return body
  | redirections => return .redirected line body redirections

/-- Reads a command. -/
def readCommand (readers : Readers) (behindLines : Bool) : Reading Script := do
  let lexeme ← readers.leading behindLines
  let line := (← get).line
  match lexeme with
  | .keyword "if" =>
    let body ← readers.choiceRest ((← get).characters.length + 2)
    readers.withRedirections line body
  | .keyword "while" => readers.withRedirections line (← readers.loopRest true)
  | .keyword "until" => readers.withRedirections line (← readers.loopRest false)
  | .keyword "for" => readers.withRedirections line (← readers.eachRest line)
  | .keyword "case" => readers.withRedirections line (← readers.selectRest line)
  | .keyword "\x7b" =>
    let body ← readers.list .body
    readers.expectKeyword "\x7d" false
    readers.withRedirections line body
  | .operator "(" =>
    let body ← readers.list .body
    match ← readers.anyLexeme with
    | .operator ")" => readers.withRedirections line (.subshell body)
    | lexeme => unexpected lexeme (some "\")\"")
  | .word pieces =>
    putBack (.word pieces)
    readers.simpleRest line {} ((← get).characters.length + 2)
  | .redirection redirection =>
    putBack (.redirection redirection)
    readers.simpleRest line {} ((← get).characters.length + 2)
  | lexeme => unexpected lexeme none

/-- Reads the stages of a pipeline behind the first one. -/
def stages (readers : Readers) : Nat → Reading (List Script)
  | 0 => return []
  | steps + 1 => do
    match ← readers.leading false with
    | .operator "|" =>
      let stage ← readers.command true
      return stage :: (← stages readers steps)
    | lexeme =>
      putBack lexeme
      return []

/-- Reads a pipeline, behind ends of lines or not. -/
def pipeline (readers : Readers) (behindLines : Bool) : Nat → Reading Script
  | 0 => return .nothing
  | steps + 1 => do
    match ← readers.leading behindLines with
    | .keyword "!" => return .inverse (← pipeline readers false steps)
    | lexeme =>
      putBack lexeme
      let first ← readers.command false
      match ← readers.stages ((← get).characters.length + 2) with
      | [] => return first
      | others => return .pipeline (first :: others)

/-- Reads what is joined to a pipeline by its success or failure. -/
def joined (readers : Readers) (first : Script) : Nat → Reading Script
  | 0 => return first
  | steps + 1 => do
    match ← readers.leading false with
    | .operator "&&" =>
      let next ← readers.pipeline true ((← get).characters.length + 2)
      joined readers (.both first next) steps
    | .operator "||" =>
      let next ← readers.pipeline true ((← get).characters.length + 2)
      joined readers (.either first next) steps
    | lexeme =>
      putBack lexeme
      return first

/-- One command behind another. -/
def andThen : Script → Script → Script
  | .nothing, next => next
  | first, next => .sequence first next

/-- Reads commands up to what closes them, which is put back; given what was read of them. -/
def listRest (readers : Readers) (extent : Extent) (first : Script) (empty : Bool) :
    Nat → Reading Script
  | 0 => return first
  | steps + 1 => do
    match ← readers.leading (extent != .line) with
    | .newline => return first
    | .ending =>
      putBack .ending
      return first
    | lexeme =>
      putBack lexeme
      if closesList lexeme && extent != .line && (extent = .optional || !empty) then return first
      else
        let start ← readers.pipeline false ((← get).characters.length + 2)
        let next ← readers.joined start ((← get).characters.length + 2)
        let further (command : Script) : Reading Script :=
          listRest readers extent (andThen first command) false steps
        match ← readers.leading false with
        | .operator "&" => further (.background next)
        | .operator ";" => further next
        | .newline =>
          putBack .newline
          further next
        | .ending =>
          putBack .ending
          further next
        | lexeme =>
          if extent = .line then unexpected lexeme none
          else
            putBack lexeme
            return andThen first next

/-- Reads commands up to what closes them. -/
def readList (readers : Readers) (extent : Extent) : Reading Script := do
  readers.listRest extent .nothing true ((← get).characters.length + 4)

/-- The readers that give up. -/
def bottom : Readers where
  pieces := fun _ => misread "too deep"
  list := fun _ => misread "too deep"
  command := fun _ => misread "too deep"

/-- The readers one rung higher. -/
def above (readers : Readers) : Readers where
  pieces := readers.readPieces
  list := readers.readList
  command := readers.readCommand

/-- The readers of a rung. -/
def ofHeight : Nat → Readers
  | 0 => bottom
  | height + 1 => (ofHeight height).above

/-- The readers for a text. A character takes no more than a few rungs. -/
def forText (characters : List Char) : Readers :=
  ofHeight (4 * characters.length + 16)

end Readers

/-- A line of a script and whether it is the end of it. -/
structure ScriptLine where
  command : Script
  last : Bool

/-- Reads the lines of a script up to its end or a mistake. -/
def readLines (readers : Readers) : Nat → Source → List ScriptLine × Option Misreading
  | 0, _ => ([], none)
  | steps + 1, source =>
    match (readers.list .line).run source with
    | .error misreading => ([], some misreading)
    | .ok (command, rest) =>
      match rest.back with
      | some .ending => ([⟨command, true⟩], none)
      | some lexeme => ([], some ⟨rest.line, s!"Syntax error: {lexeme.describe} unexpected"⟩)
      | none =>
        let (lines, misreading) := readLines readers steps rest
        (⟨command, false⟩ :: lines, misreading)

/-- Reads a script, of which the first line has a number. -/
def readScript (text : String) (line : Nat) : List ScriptLine × Option Misreading :=
  let characters := text.toList
  readLines (Readers.forText characters) (characters.length + 1) ⟨characters, line, 0, none⟩

/-- Reads a word in which nothing but dollar signs and backward quotes has a meaning. -/
def readText (text : String) (line : Nat) : Except Misreading Word :=
  let characters := text.toList
  (((Readers.forText characters).pieces ⟨.text, true⟩).run ⟨characters, line, 0, none⟩).map Prod.fst

end EntryTree.Command
