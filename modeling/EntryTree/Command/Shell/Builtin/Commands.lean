import EntryTree.Command.Program.Condition
import EntryTree.Command.Program.Finding
import EntryTree.Command.Program.Print
import EntryTree.Command.Shell.Builtin.Basic

/-!
# Commands for commands, directories and texts

The commands that tell what a name stands for, that run texts, that leave what they are part of,
that change the directory, and that print and test.
-/

namespace EntryTree.Command

namespace Builtin

open Shell

/-- The words that have a meaning of their own at the beginning of a command. -/
def isKeyword (name : String) : Bool :=
  keywords.contains name

/-- Remembers that a program was looked up. -/
def track (name : String) : Work Unit :=
  modify fun shell =>
    if name.contains '/' || shell.tracked.contains name then shell
    else { shell with tracked := shell.tracked ++ [name] }

/-- What a name stands for, in a sentence or in short; whether it stands for anything. `names` are
those of the builtin commands. -/
def describe (names : List String) (inSentence : Bool) (name : String) : Work Bool := do
  let shell ← get
  let tell (sentence short : String) : Work Bool := do
    say (if inSentence then s!"{name}{sentence}\n" else short ++ "\n")
    return true
  let searchPath := (shell.value? "PATH").getD ""
  if isKeyword name then tell " is a shell keyword" name
  else
    match shell.aliases.lookup name with
    | some text => tell s!" is an alias for {text}" s!"alias {name}={quoted text}"
    | none =>
      if (shell.functions.lookup name).isSome then tell " is a shell function" name
      else if specialNames.contains name && name != "local" then
        tell " is a special shell builtin" name
      else if names.contains name then tell " is a shell builtin" name
      else
        match shell.machine.findProgram shell.directory searchPath name with
        | .ok path =>
          let shown := if name.contains '/' then name else path
          let tracked := shell.tracked.contains name
          track name
          tell (if tracked then s!" is a tracked alias for {shown}" else s!" is {shown}") shown
        | .error _ => do
          if inSentence then say s!"{name}: not found\n"
          return false

/-- `type`: what names stand for. -/
def tellKinds (names : List String) : Builtin := fun _ _ arguments => do
  let mut status := 0
  for name in arguments do
    if !(← describe names true name) then status := 127
  return status

/-- `command -v` and `command -V`: what a name stands for. -/
def tellKind (names : List String) (inSentence : Bool) (arguments : List String) : Work Nat := do
  match arguments with
  | [] => return 0
  | name :: _ => return if ← describe names inSentence name then 0 else 127

/-- `hash`: the programs that were looked up. -/
def tellPrograms : Builtin := fun _ _ arguments => do
  let (given, names) ← options "rv" "" arguments
  let shell ← get
  let find (name : String) : Except LaunchFault String :=
    shell.machine.findProgram shell.directory ((shell.value? "PATH").getD "") name
  if !given.isEmpty then
    modify fun shell => { shell with tracked := [] }
    return 0
  else if names.isEmpty then
    let sorted := shell.tracked.mergeSort fun first second =>
      rank trackedBuckets first ≤ rank trackedBuckets second
    for name in sorted do
      if let .ok path := find name then say s!"{path}\n"
    return 0
  else
    let mut status := 0
    for name in names do
      match find name with
      | .ok _ =>
        modify fun shell =>
          { shell with tracked := shell.tracked.filter (· != name) ++ [name] }
      | .error fault =>
        complain s!"{name}: {fault.message}"
        status := 1
    return status

/-- `alias`: short names of texts. -/
def setAliases : Builtin := fun _ _ arguments => do
  let line (entry : String × String) : String := s!"{entry.1}={quoted entry.2}\n"
  if arguments.isEmpty then
    let sorted := (← get).aliases.mergeSort fun first second =>
      rank variableBuckets first.1 ≤ rank variableBuckets second.1
    say (String.join (sorted.map line))
    return 0
  else
    let mut status := 0
    for argument in arguments do
      let name := String.ofList (argument.toList.takeWhile (· != '='))
      if argument.contains '=' && !name.isEmpty then
        let text := String.ofList (argument.toList.drop (name.length + 1))
        modify fun shell =>
          { shell with aliases := shell.aliases.filter (·.1 != name) ++ [(name, text)] }
      else
        match (← get).aliases.lookup argument with
        | some text => say (line (argument, text))
        | none =>
          report s!"alias: {argument} not found\n"
          status := 1
    return status

/-- `unalias`: short names that go. -/
def removeAliases : Builtin := fun _ _ arguments => do
  let (given, names) ← options "a" "" arguments
  if !given.isEmpty then
    modify fun shell => { shell with aliases := [] }
    return 0
  else
    let mut status := 0
    for name in names do
      if ((← get).aliases.lookup name).isSome then
        modify fun shell => { shell with aliases := shell.aliases.filter (·.1 != name) }
      else
        report s!"unalias: {name} not found\n"
        status := 1
    return status

/-! ### Running texts and leaving -/

/-- `eval`: the arguments as a script. -/
def evaluate : Builtin := fun level mode arguments => do
  setStatus 0
  runText level (" ".intercalate arguments) 1 ⟨mode.tested, false⟩
  return (← get).status

/-- `.`: the script in a file. -/
def runFile : Builtin := fun level mode arguments => do
  let (_, names) ← options "" "" arguments
  match names with
  | [] => return 0
  | name :: _ =>
    let shell ← get
    let places := ((shell.value? "PATH").getD "").splitToList (· == ':')
    let candidates := if name.contains '/' then [name] else places.map (· ++ "/" ++ name)
    let isFile (path : String) : Bool :=
      match shell.machine.kind? (Machine.resolve shell.directory path) with
      | none | some .directory => false
      | _ => true
    match if name.contains '/' then some name else candidates.find? isFile with
    | none => abort s!"{name}: not found"
    | some path =>
      match ← act (Machine.openToRead shell.directory path) with
      | .error _ => abort s!"cannot open {path}: No such file"
      | .ok channel =>
        let text ← act (Machine.readText (some channel))
        setStatus 0
        match ← attempt (speaking s!"{path}: " (runText level text 1 ⟨mode.tested, false⟩)) with
        | .ok _ | .error .function => return (← get).status
        | .error leave => throw leave

/-- `exit`: the shell ends. -/
def exit : Builtin := fun _ _ arguments => do
  let shell ← get
  match arguments with
  | [] => throw (.exit (shell.interrupted.getD shell.status))
  | text :: _ => throw (.exit (← number text))

/-- `return`: the function ends. -/
def leaveFunction : Builtin := fun _ _ arguments => do
  let shell ← get
  match arguments with
  | [] => setStatus (shell.interrupted.getD shell.status)
  | text :: _ => setStatus (← number text)
  throw .function

/-- `break` and `continue`: a round of a loop ends. -/
def leaveLoop (again : Bool) : Builtin := fun _ _ arguments => do
  let count ←
    match arguments with
    | [] => pure 1
    | text :: _ => do
      let count ← number text
      if count = 0 then abort s!"Illegal number: {text}" else pure count
  let count := min count (← get).loops
  if count = 0 then return 0
  else
    setStatus 0
    throw (.loops count again)

/-! ### Directories -/

/-- `cd`: another directory. -/
def changeDirectory : Builtin := fun _ _ arguments => do
  let (_, names) ← options "LP" "" arguments
  let shell ← get
  let target :=
    match names with
    | [] => (shell.value? "HOME").getD ""
    | ["-"] => (shell.value? "OLDPWD").getD ""
    | name :: _ => name
  let resolved := Machine.resolve shell.directory target
  if shell.machine.kind? resolved != some .directory then abort s!"can't cd to {target}"
  else
    let old := shell.directory
    put "OLDPWD" ⟨some old, true, false⟩
    put "PWD" ⟨some resolved, true, false⟩
    modify fun shell => { shell with directory := resolved }
    if names.head? = some "-" then say (resolved ++ "\n")
    return 0

/-- `pwd`: the directory. -/
def tellDirectory : Builtin := fun _ _ arguments => do
  discard (options "LP" "" arguments)
  say ((← get).directory ++ "\n")
  return 0

/-! ### Printing and testing -/

/-- `echo`: the arguments, separated by spaces. -/
def echo : Builtin := fun _ _ arguments => do
  say (shellEcho arguments)
  return 0

/-- `printf`: a format filled with arguments. -/
def printf : Builtin := fun _ _ arguments => do
  let (_, rest) ← options "" "" arguments
  match rest with
  | [] => abort "usage: printf format [arg ...]"
  | format :: arguments =>
    let printed := printFormat .shell format arguments
    for complaint in printed.complaints do
      complain complaint
    say printed.output
    return printed.code

/-- `test`: whether an expression holds. A bracket closes it if the name is one. -/
def test (bracket : Bool) : Builtin := fun _ _ arguments => do
  let shell ← get
  match Condition.ofArguments ⟨shell.machine, shell.directory⟩ bracket arguments with
  | .ok true => return 0
  | .ok false => return 1
  | .error fault =>
    match fault with
    | .missingBracket => abort "missing ]"
    | .notInteger text => abort s!"Illegal number: {text}"
    | .argumentExpected operator => abort s!"{operator}: argument expected"
    | .unexpected last _ => abort s!"{last}: unexpected operator"
    | .closingExpected => abort "closing paren expected"

end Builtin
end EntryTree.Command
