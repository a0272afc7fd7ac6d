import EntryTree.Command.Script.Arithmetic
import EntryTree.Command.Shell.Fork
import EntryTree.Command.Shell.Pattern

/-!
# Expansion of words

What a word of a script stands for: its pieces are replaced by what they mean, the result is split
into fields where unquoted values have separators, and fields that are patterns are replaced by
the paths that they match.
-/

namespace EntryTree.Command

namespace Shell

/-- Where a character of an expanded word comes from. -/
inductive Mark
  | literal
  | quoted
  /-- From the value of something that was not quoted; only such characters separate fields. -/
  | expanded
  deriving DecidableEq

/-- A part of an expanded word. -/
inductive Part
  | character (c : Char) (mark : Mark)
  /-- The end of a field, whatever the separators are. -/
  | boundary
  /-- A field is there even if nothing is in it. -/
  | presence

/-- The parts of a text. -/
def partsOf (mark : Mark) (text : String) : List Part :=
  text.toList.map fun c => .character c mark

/-- The text of the parts, with a text between fields. -/
def textOf (between : String) (parts : List Part) : String :=
  String.join (parts.map fun
    | .character c _ => c.toString
    | .boundary => between
    | .presence => "")

/-- The parts as a pattern. -/
def patternOf (parts : List Part) : List PatternCharacter :=
  parts.filterMap fun
    | .character c mark => some ⟨c, mark != .quoted⟩
    | .boundary => some ⟨' ', false⟩
    | .presence => none

/-- What stands between all parameters in one field. -/
def joiner (shell : Shell) : String :=
  String.ofList (shell.separators.toList.take 1)

/-- The text that a word in which nothing is split stands for. -/
def joined (parts : List Part) : Work String :=
  return textOf (joiner (← get)) parts

/-- Makes the unquoted characters of a word those of a value. -/
def asValue (parts : List Part) : List Part :=
  parts.map fun
    | .character c .literal => .character c .expanded
    | part => part

/-- The parts of all parameters. -/
def allParameters (shell : Shell) (name : String) (quoted : Bool) : List Part :=
  if quoted && name = "*" then partsOf .quoted (shell.joiner.intercalate shell.parameters)
  else
    let field (text : String) : List Part :=
      if quoted then .presence :: partsOf .quoted text else partsOf .expanded text
    (shell.parameters.map field).intersperse [.boundary] |>.flatten

/-- Evaluates an arithmetic expression and carries out its assignments. -/
def calculate (text : String) : Work Int := do
  let shell ← get
  let value (name : String) : String := (shell.parameter? name).getD ""
  match Arithmetic.run value text with
  | .ok (result, assigned) =>
    for (name, value) in assigned do
      assign name (toString value)
    return result
  | .error (.expression message) => abort s!"arithmetic expression: {message}: \"{text}\""
  | .error (.illegalNumber text) => abort s!"Illegal number: {text}"

/-- A text without the ends of lines behind it. -/
def trimNewlines (text : String) : String :=
  String.ofList (text.toList.reverse.dropWhile (· == '\n')).reverse

/-- The output of a script, without ends of lines behind it. -/
def outputOf (level : Level) (script : Script) : Work String := do
  let (text, status) ← capture level (level.command ⟨false, true⟩ script)
  tellOf status
  modify fun shell => { shell with inner := some status.shellCode }
  return trimNewlines (String.ofList (text.toList.filter (· != '\x00')))

/-- The parts of one piece of a word; `expand` expands the words inside of it. -/
def expandPiece (level : Level) (expand : Word → Work (List Part)) : Piece → Work (List Part)
  | .text characters quoted => return partsOf (if quoted then .quoted else .literal) characters
  | .quotes => return [.presence]
  | .output script quoted => do
    return partsOf (if quoted then .quoted else .expanded) (← outputOf level script)
  | .arithmetic expression quoted => do
    let text ← joined (← expand expression)
    return partsOf (if quoted then .quoted else .expanded) (toString (← calculate text))
  | .parameter name use quoted => do
    let shell ← get
    let all := name = "@" || name = "*"
    let value? : Option String :=
      if all then
        if shell.parameters.isEmpty then none else some (shell.joiner.intercalate shell.parameters)
      else shell.parameter? name
    let mark : Mark := if quoted then .quoted else .expanded
    let value : List Part :=
      if all then allParameters shell name quoted else partsOf mark (value?.getD "")
    let isSet (emptyToo : Bool) : Bool :=
      match value? with
      | some text => !(emptyToo && text.isEmpty)
      | none => false
    let needed : Work Unit := do
      if value?.isNone && !all && shell.options.contains 'u' then
        abort s!"{name}: parameter not set"
    let inner (word : Word) : Work (List Part) := do
      let parts ← expand word
      return if quoted then parts else asValue parts
    match use with
    | .value => do
      needed
      return value
    | .length => do
      needed
      return partsOf mark (toString (value?.getD "").length)
    | .orElse emptyToo word => if isSet emptyToo then return value else inner word
    | .instead emptyToo word => if isSet emptyToo then inner word else return []
    | .orAssign emptyToo word =>
      if isSet emptyToo then return value
      else if !isName name then abort s!"{name}: bad variable name"
      else do
        let text ← joined (← expand word)
        assign name text
        return partsOf mark text
    | .orFail emptyToo word =>
      if isSet emptyToo then return value
      else do
        let message ← joined (← expand word)
        if word.isEmpty then
          abort (s!"{name}: parameter not set" ++ if emptyToo then " or null" else "")
        else abort s!"{name}: {message}"
    | .trim atEnd longest word => do
      needed
      let pattern := patternOf (← expand word)
      let trim (text : String) : String := trimPattern pattern atEnd longest text
      if all && !(quoted && name = "*") then
        let trimmed := { shell with parameters := shell.parameters.map trim }
        return allParameters trimmed name quoted
      else return partsOf mark (trim (value?.getD ""))
    | .bad => abort "Bad substitution"

/-- The parts of a word, in which other words lie up to a depth. -/
def expandWord (level : Level) : Nat → Word → Work (List Part)
  | 0, _ => return []
  | depth + 1, word => return (← word.mapM (expandPiece level (expandWord level depth))).flatten

/-- How deep words lie in words. -/
def wordDepth : Nat := 64

/-- The home of a user. -/
def home? (shell : Shell) (user : String) : Option String :=
  if user.isEmpty then (shell.value? "HOME").filter (!·.isEmpty)
  else
    let homes := [("root", "/root"), ("daemon", "/usr/sbin"), ("bin", "/bin"),
      ("nobody", "/nonexistent")]
    homes.lookup user

/-- Replaces a tilde and the name behind it at the beginning of a word by a home. -/
def expandTilde (shell : Shell) (colons : Bool) : Word → Word
  | .text "~" false :: rest =>
    let name := rest.takeWhile fun
      | .text c false => c != "/" && !(colons && c = ":")
      | _ => false
    let behind := rest.drop name.length
    let isEnd :=
      match behind with
      | [] => true
      | .text _ false :: _ => true
      | _ => false
    let user := String.join (name.map fun
      | .text c _ => c
      | _ => "")
    match if isEnd then shell.home? user else none with
    | some home => .text home true :: behind
    | none => .text "~" false :: rest
  | word => word

/-- Replaces the tildes of an assigned word: at its beginning and behind colons. -/
def expandTildes (shell : Shell) : Nat → Word → Word
  | 0, word => word
  | steps + 1, word =>
    match expandTilde shell true word with
    | [] => []
    | piece :: rest =>
      let isColon : Piece → Bool := fun
        | .text ":" false => true
        | _ => false
      let front := (piece :: rest).takeWhile (!isColon ·)
      match (piece :: rest).drop front.length with
      | colon :: behind => front ++ colon :: expandTildes shell steps behind
      | [] => front

/-- The text that an assigned word stands for. -/
def assignedText (level : Level) (word : Word) : Work String := do
  let word := expandTildes (← get) (word.length + 1) word
  joined (← expandWord level wordDepth word)

/-- The text that a word stands for which is one field whatever is in it. -/
def singleText (level : Level) (word : Word) : Work String := do
  let word := expandTilde (← get) false word
  joined (← expandWord level wordDepth word)

/-- The pattern that a word stands for. -/
def wordPattern (level : Level) (word : Word) : Work (List PatternCharacter) := do
  let word := expandTilde (← get) false word
  return patternOf (← expandWord level wordDepth word)

/-! ### Fields -/

/-- A field that is being made: its characters, newest first, and whether it is there. -/
structure Draft where
  characters : List (Char × Mark)
  present : Bool

/-- Splits parts into fields, given the current one and whether blanks have just ended one. -/
def split (separators : String) (draft : Draft) (closed : Bool) :
    List Part → List (List (Char × Mark))
  | [] => if draft.present then [draft.characters.reverse] else []
  | .presence :: parts => split separators { draft with present := true } false parts
  | .boundary :: parts =>
    if draft.present then draft.characters.reverse :: split separators ⟨[], false⟩ false parts
    else split separators ⟨[], false⟩ false parts
  | .character c mark :: parts =>
    if mark = .expanded && separators.contains c then
      if c = ' ' || c = '\t' || c = '\n' then
        if draft.present then draft.characters.reverse :: split separators ⟨[], false⟩ true parts
        else split separators draft closed parts
      else if closed && !draft.present then split separators ⟨[], false⟩ false parts
      else draft.characters.reverse :: split separators ⟨[], false⟩ false parts
    else split separators ⟨(c, mark) :: draft.characters, true⟩ false parts

/-- Whether a pattern has characters that stand for others. -/
def isPattern (pattern : List PatternCharacter) : Bool :=
  let active := (pattern.filter (·.active)).map (·.character)
  active.contains '*' || active.contains '?' ||
    (active.dropWhile (· != '[')).contains ']'

/-- The paths that match the steps of a pattern, from a directory on. -/
def matchPaths (machine : Machine) (directory shown : String) :
    List (List PatternCharacter) → List String
  | [] => [shown]
  | step :: steps =>
    let names :=
      (Machine.systemPaths ++ machine.directories ++ machine.files.map Prod.fst).filterMap
        fun path =>
          if path != "/" && Machine.parent path = directory then
            (path.splitToList (· == '/')).getLast?
          else none
    let names := (names.mergeSort fun first second => first ≤ second).eraseDups
    let isHidden (name : String) : Bool :=
      name.startsWith "." && !((step.head?.map fun c => c.character == '.').getD false)
    let text := String.ofList (step.map (·.character))
    let chosen :=
      if isPattern step then names.filter fun name => !isHidden name && matchesPattern step name
      else if (machine.kind? (Machine.resolve directory text)).isSome then [text]
      else []
    chosen.flatMap fun name =>
      let shown := shown ++ name ++ (if steps.isEmpty then "" else "/")
      matchPaths machine (Machine.resolve directory name) shown steps

/-- Splits a pattern at its slashes. -/
def patternSteps (pattern : List PatternCharacter) : List (List PatternCharacter) :=
  pattern.foldr (fun c steps =>
    match steps with
    | step :: steps => if c.character = '/' then [] :: step :: steps else (c :: step) :: steps
    | [] => [[c]]) [[]]

/-- The paths that a field stands for if it is a pattern that matches any, else its text. -/
def paths (shell : Shell) (field : List (Char × Mark)) : List String :=
  let text := String.ofList (field.map Prod.fst)
  let pattern := field.map fun (c, mark) => (⟨c, mark != .quoted⟩ : PatternCharacter)
  if !isPattern pattern || shell.options.contains 'f' then [text]
  else
    let found :=
      match patternSteps pattern with
      | [] :: steps => matchPaths shell.machine "/" "/" steps
      | steps => matchPaths shell.machine shell.directory "" steps
    if found.isEmpty then [text] else found

/-- The fields that a word stands for. -/
def fieldsOf (level : Level) (word : Word) : Work (List String) := do
  let word := expandTilde (← get) false word
  let parts ← expandWord level wordDepth word
  let shell ← get
  return (split shell.separators ⟨[], false⟩ false parts).flatMap (paths shell)

/-- The fields that words stand for. -/
def allFields (level : Level) (words : List Word) : Work (List String) := do
  let mut fields := []
  for word in words do
    fields := fields ++ (← fieldsOf level word)
  return fields

end Shell
end EntryTree.Command
