import EntryTree.Command.Shell.Builtin.Basic

/-!
# Commands for variables, parameters and options

`export`, `readonly`, `local`, `unset`, `set`, `shift`, `getopts` and `read`.
-/

namespace EntryTree.Command

namespace Builtin

open Shell

/-- Splits an argument at the first sign of assignment. -/
def splitAssignment (text : String) : String × Option String :=
  let name := text.toList.takeWhile (· != '=')
  match text.toList.drop name.length with
  | _ :: value => (String.ofList name, some (String.ofList value))
  | [] => (String.ofList name, none)

/-- Complains unless a text is a name. -/
def needName (name : String) : Work Unit := do
  if !isName name then abort s!"{name}: bad variable name"

/-- Marks variables and gives values to some of them, or lists those that are marked. -/
def markVariables (word : String) (isMarked : Variable → Bool) (mark : Variable → Variable) :
    Builtin := fun _ _ arguments => do
  let (given, names) ← options "p" "" arguments
  if names.isEmpty || !given.isEmpty then
    say (listing (word ++ " ") ((← get).bindings.filter (isMarked ·.2)))
  else
    for argument in names do
      let (name, value?) := splitAssignment argument
      needName name
      if let some value := value? then assign name value
      put name (mark (((← get).binding? name).getD ⟨none, false, false⟩))
  return 0

/-- `export`: variables that programs are passed. -/
def exportVariables : Builtin :=
  markVariables "export" (·.exported) fun variable_ => { variable_ with exported := true }

/-- `readonly`: variables that keep their values. -/
def keepVariables : Builtin :=
  markVariables "readonly" (·.readOnly) fun variable_ => { variable_ with readOnly := true }

/-- The name under which the options are kept that a function sets for itself. -/
def optionsName : String := "-"

/-- `local`: variables of a function. -/
def localVariables : Builtin := fun _ _ arguments => do
  match (← get).locals with
  | [] => abort "not in a function"
  | _ =>
    for argument in arguments do
      let (name, value?) := splitAssignment argument
      if name != optionsName then needName name
      modify fun shell =>
        let old :=
          if name = optionsName then some ⟨some (String.ofList shell.options), false, false⟩
          else shell.binding? name
        match shell.locals with
        | frame :: frames =>
          if frame.any (·.1 = name) then shell
          else { shell with locals := ((name, old) :: frame) :: frames }
        | [] => shell
      if let some value := value? then assign name value
    return 0

/-- `unset`: variables and functions that are no longer there. -/
def unset : Builtin := fun _ _ arguments => do
  let (given, names) ← options "fv" "" arguments
  for name in names do
    if (given.getLast?.map Prod.fst) = some 'f' then
      modify fun shell => { shell with functions := shell.functions.filter (·.1 != name) }
    else
      needName name
      if (((← get).binding? name).map Variable.readOnly).getD false then
        abort s!"{name}: is read only"
      forget name
  return 0

/-! ### Options and parameters of the shell -/

/-- The options of a shell with their letters, in the order in which they are listed. -/
def optionNames : List (String × Char) :=
  [("errexit", 'e'), ("noglob", 'f'), ("ignoreeof", 'I'), ("interactive", 'i'), ("monitor", 'm'),
    ("noexec", 'n'), ("stdin", 's'), ("xtrace", 'x'), ("verbose", 'v'), ("vi", 'V'), ("emacs", 'E'),
    ("noclobber", 'C'), ("allexport", 'a'), ("notify", 'b'), ("nounset", 'u'), ("privileged", 'p'),
    ("nolog", '1'), ("debug", '2')]

/-- Turns an option on or off. -/
def turn (option : Char) (on : Bool) : Work Unit :=
  modify fun shell =>
    let others := shell.options.filter (· != option)
    { shell with options := if on then option :: others else others }

/-- Turns the option of a letter on or off. -/
def turnLetter (letter : Char) (on : Bool) : Work Unit := do
  if letter.isAlpha && optionNames.any (·.2 = letter) then turn letter on
  else abort s!"Illegal option -{letter}"

/-- The list of all options: for reading, or as commands that turn them as they are. -/
def optionListing (options : List Char) (readable : Bool) : String :=
  let line (name : String) (letter : Char) : String :=
    let on := options.contains letter
    if readable then
      name ++ String.ofList (List.replicate (16 - name.length) ' ') ++
        (if on then "on" else "off") ++ "\n"
    else if on then s!"set -o {name}\n"
    else s!"set +o {name}\n"
  (if readable then "Current option settings\n" else "") ++
    String.join (optionNames.map fun (name, letter) => line name letter)

/-- Turns the options that the letters of an argument stand for, given the arguments behind it;
the arguments that are left. -/
def turnLetters (on : Bool) : List Char → List String → Work (List String)
  | [], rest => return rest
  | 'o' :: letters, rest => do
    match rest with
    | [] => say (optionListing (← get).options on)
    | name :: _ =>
      match optionNames.lookup name with
      | some letter => turn letter on
      | none => abort (if on then s!"Illegal option -o {name}" else s!"Illegal option +o {name}")
    turnLetters on letters rest.tail
  | letter :: letters, rest => do
    turnLetter letter on
    turnLetters on letters rest

/-- Reads options of the shell among at most `steps` arguments: the arguments that are left, and
whether the options were closed by two hyphens. -/
def turnOptions : Nat → List String → Work (List String × Bool)
  | 0, arguments => return (arguments, false)
  | steps + 1, arguments => do
    match arguments with
    | [] => return ([], false)
    | argument :: rest =>
      match argument.toList with
      | ['-'] =>
        turn 'x' false
        turn 'v' false
        return (rest, false)
      | ['-', '-'] => return (rest, true)
      | '-' :: letters => turnOptions steps (← turnLetters true letters rest)
      | '+' :: letters => turnOptions steps (← turnLetters false letters rest)
      | _ => return (arguments, false)

/-- `set`: options and parameters of the shell. -/
def setOptions : Builtin := fun _ _ arguments => do
  if arguments.isEmpty then
    say (listing "" ((← get).bindings.filter (·.2.value.isSome)))
  else
    let (rest, closed) ← turnOptions arguments.length arguments
    if closed || !rest.isEmpty then
      modify fun shell =>
        { shell with parameters := rest, optionIndex := 1, optionOffset := none }
  return 0

/-- `shift`: the first parameters go. -/
def shiftParameters : Builtin := fun _ _ arguments => do
  let count ←
    match arguments with
    | [] => pure 1
    | text :: _ => number text
  if (← get).parameters.length < count then abort "can't shift that many"
  else
    modify fun shell =>
      { shell with
        parameters := shell.parameters.drop count, optionIndex := 1, optionOffset := none }
    return 0

/-- How an option letter stands in the list of those that are known: whether it takes a value. -/
def takesValue? (letter : Char) : List Char → Option Bool
  | c :: ':' :: rest => if c = letter then some true else takesValue? letter rest
  | c :: rest => if c = letter then some false else takesValue? letter rest
  | [] => none

/-- `getopts`: the next option of the parameters, or of other arguments. -/
def nextOption : Builtin := fun _ _ arguments => do
  match arguments with
  | known :: name :: given => do
    let shell ← get
    let list := if given.isEmpty then shell.parameters else given
    let (index, offset?) :=
      if list.length + 1 < shell.optionIndex then (1, none)
      else (shell.optionIndex, shell.optionOffset)
    let quiet := known.startsWith ":"
    let begun : Option (List Char) := do
      let offset ← offset?
      let word ← list[index - 2]?
      let rest := word.toList.drop offset
      if index ≤ 1 || rest.isEmpty then none else some rest
    let finish (index : Nat) (offset : Option Nat) (letter : Char) (status : Nat) : Work Nat := do
      assign "OPTIND" (toString index)
      modify fun shell => { shell with optionIndex := index, optionOffset := offset }
      needName name
      assign name letter.toString
      return status
    let next : Option (List Char × Nat) :=
      match begun with
      | some rest => some (rest, index)
      | none =>
        match (list[index - 1]?).map String.toList with
        | some ('-' :: c :: more) =>
          if c = '-' && more.isEmpty then none else some (c :: more, index + 1)
        | _ => none
    match next with
    | none => finish (if list[index - 1]? = some "--" then index + 1 else index) none '?' 1
    | some ([], index) => finish index none '?' 1
    | some (letter :: rest, index) =>
      let word := (list[index - 2]?.getD "").toList
      let offset := if rest.isEmpty then none else some (word.length - rest.length)
      match takesValue? letter known.toList with
      | none =>
        if quiet then assign "OPTARG" letter.toString
        else
          report s!"Illegal option -{letter}\n"
          forget "OPTARG"
        finish index offset '?' 0
      | some false =>
        assign "OPTARG" ""
        finish index offset letter 0
      | some true =>
        if !rest.isEmpty then
          assign "OPTARG" (String.ofList rest)
          finish index none letter 0
        else
          match list[index - 1]? with
          | some value =>
            assign "OPTARG" value
            finish (index + 1) none letter 0
          | none =>
            if quiet then
              assign "OPTARG" letter.toString
              finish index none ':' 0
            else
              report s!"No arg for -{letter} option\n"
              forget "OPTARG"
              finish index none '?' 0
  | _ => abort "Usage: getopts optstring var [arg...]"

/-! ### Reading lines -/

/-- The characters of a line, with those marked that a backslash protects; and whether the line
goes on behind its end. -/
def protect (raw : Bool) : List Char → List (Char × Bool) × Bool
  | [] => ([], false)
  | '\\' :: rest =>
    if raw then
      let (characters, more) := protect raw rest
      (('\\', false) :: characters, more)
    else
      match rest with
      | [] => ([], true)
      | c :: rest =>
        let (characters, more) := protect raw rest
        ((c, true) :: characters, more)
  | c :: rest =>
    let (characters, more) := protect raw rest
    ((c, false) :: characters, more)

/-- Reads a line, and more as long as its end is protected: the characters, and whether the last
line had an end. -/
def readProtected (raw : Bool) : Nat → Work (List (Char × Bool) × Bool)
  | 0 => return ([], false)
  | steps + 1 => do
    let shell ← get
    let (line, ended) ← act (Machine.readLine (shell.channels.lookup 0))
    let (characters, more) := protect raw (line.toList.filter (· != '\x00'))
    if more && ended then
      let (others, ended) ← readProtected raw steps
      return (characters ++ others, ended)
    else return (characters, ended)

/-- How many lines may be joined. -/
def joinedLines : Nat := 10000

/-- The values of variables that a line is split into. The last one gets all that is left. -/
def splitLine (separators : String) : List String → List (Char × Bool) → List (String × String)
  | [], _ => []
  | [name], characters =>
    let isBlank := fun (c : Char × Bool) =>
      !c.2 && separators.contains c.1 && (c.1 = ' ' || c.1 = '\t' || c.1 = '\n')
    let isSeparator := fun (c : Char × Bool) => !c.2 && separators.contains c.1
    let trim := fun (text : List (Char × Bool)) => (text.reverse.dropWhile isBlank).reverse
    let text := trim (characters.dropWhile isBlank)
    let field := text.takeWhile (!isSeparator ·)
    let behind := (text.drop field.length).dropWhile isBlank
    let single := behind.length = 1 && behind.all isSeparator
    [(name, String.ofList ((if single then field else text).map Prod.fst))]
  | name :: next :: names, characters =>
    let isBlank := fun (c : Char × Bool) =>
      !c.2 && separators.contains c.1 && (c.1 = ' ' || c.1 = '\t' || c.1 = '\n')
    let isSeparator := fun (c : Char × Bool) => !c.2 && separators.contains c.1
    let text := characters.dropWhile isBlank
    let field := text.takeWhile (!isSeparator ·)
    let behind := (text.drop field.length).dropWhile isBlank
    let rest :=
      match behind with
      | c :: rest => if isSeparator c then rest else c :: rest
      | [] => []
    (name, String.ofList (field.map Prod.fst)) :: splitLine separators (next :: names) rest

/-- `read`: a line of the standard input, split into variables. -/
def readLine : Builtin := fun _ _ arguments => do
  let (given, names) ← options "r" "p" arguments
  if names.isEmpty then abort "arg count"
  else
    let (characters, ended) ← readProtected (given.any (·.1 = 'r')) joinedLines
    for (name, value) in splitLine (← get).separators names characters do
      needName name
      assign name value
    return if ended then 0 else 1

end Builtin
end EntryTree.Command
