import EntryTree.Command.Shell.Builtin.Table
import EntryTree.Command.Shell.Redirecting

/-!
# Running scripts

How the commands of a script are run. The parts of a command are run by the level below, so that
functions, loops and texts that are run as scripts need no depth of their own; a script has only as
many levels as it is given, and only as many commands as the machine is patient with.
-/

namespace EntryTree.Command

namespace Shell

/-- What a simple command calls. -/
inductive Callee
  /-- Nothing: there are only assignments and redirections. -/
  | nothing
  | function (body : Script)
  | builtin (action : Builtin)
  /-- Another command in the place of the shell. -/
  | replacement
  /-- Telling what a name stands for. -/
  | description (inSentence : Bool)
  | program

/-- What a simple command calls, the name and the arguments; and whether it is special, so that
mistakes end the shell and assignments stay. -/
structure Call where
  callee : Callee
  name : String
  arguments : List String
  special : Bool

/-- How deep functions may call functions. -/
def functionDepth : Nat := 1000

/-- Counts a command. A process that has run too many is taken to run on for ever, unless nobody
reads what it writes. -/
def countCommand : Work Unit := do
  let shell ← get
  match shell.machine.budget with
  | 0 =>
    act (Machine.waitUntil Machine.never)
    throw (.gone (.signalled pipeSignal))
  | budget + 1 => set { shell with machine := { shell.machine with budget } }

/-- Does something with less patience. -/
def withPatience {α : Type} (patience : Nat) (body : Work α) : Work α := do
  let before := (← get).machine.budget
  let given := min patience before
  let setBudget (budget : Nat) : Work Unit :=
    modify fun shell => { shell with machine := { shell.machine with budget } }
  setBudget given
  let result ← attempt body
  let left := (← get).machine.budget
  setBudget (before - (given - left))
  match result with
  | .ok value => return value
  | .error leave => throw leave

/-! ### Calls -/

/-- Goes on with the fields behind `command`. -/
def callBehind (shell : Shell) : List String → Call
  | [] => ⟨.builtin (Builtin.constant 0), "command", [], false⟩
  | "-p" :: rest => callBehind shell rest
  | "-v" :: rest => ⟨.description false, "command", rest, false⟩
  | "-V" :: rest => ⟨.description true, "command", rest, false⟩
  | "--" :: rest => plain rest
  | "command" :: rest => callBehind shell rest
  | fields => plain fields
where
  plain : List String → Call
    | [] => ⟨.builtin (Builtin.constant 0), "command", [], false⟩
    | name :: arguments =>
      if name = "exec" then ⟨.replacement, name, arguments, false⟩
      else
        match Builtin.find? name with
        | some action => ⟨.builtin action, name, arguments, false⟩
        | none => ⟨.program, name, arguments, false⟩

/-- What the fields of a command call. -/
def callOf (shell : Shell) : List String → Call
  | [] => ⟨.nothing, "", [], false⟩
  | name :: arguments =>
    match shell.functions.lookup name with
    | some body => ⟨.function body, name, arguments, false⟩
    | none =>
      if name = "command" then callBehind shell arguments
      else if name = "exec" then ⟨.replacement, name, arguments, true⟩
      else
        match Builtin.find? name with
        | some action => ⟨.builtin action, name, arguments, specialNames.contains name⟩
        | none => ⟨.program, name, arguments, false⟩

/-- Expands the words of a command behind the fields that are there already. Words that are
assignments are not split if the command reads assignments. -/
def commandFields (level : Level) (fields : List String) : List Word → Work (List String)
  | [] => return fields
  | word :: words => do
    let shell ← get
    let call := shell.callOf fields
    let assigning :=
      (call.callee matches .builtin _) && Builtin.assigningNames.contains call.name
    let more ←
      match if assigning then Readers.assignment? word else none with
      | some (name, value) => do
        let text ← assignedText level value
        pure [s!"{name}={text}"]
      | none => fieldsOf level word
    commandFields level (fields ++ more) words

/-- The signals that do nothing to a shell and to what it starts. -/
def ignoredSignals (shell : Shell) : List Nat :=
  shell.ignored ++ shell.traps.filterMap fun (signal, action) =>
    if action.isEmpty && signal != 0 then some signal else none

/-- Starts a program in a process and runs it to its end. -/
def startProgram (level : Level) (process : Nat) (path name : String) (arguments : List String) :
    Work ProcessStatus := do
  let shell ← get
  let status ← act (level.launch
    { name, path, arguments, process
      ignored := shell.ignoredSignals
      environment := shell.environment
      directory := shell.directory
      channels := shell.channels })
  -- What the program sent to its own process.
  let isFatal (delivery : Delivery) : Bool :=
    delivery.process = process && Machine.isFatal delivery.signal &&
      !shell.ignoredSignals.contains delivery.signal
  let delivery? := (← get).machine.deliveries.find? isFatal
  let replaces := process = shell.process
  return if replaces then (delivery?.map fun delivery => .signalled delivery.signal).getD status
    else status

/-- Runs a program by its name. -/
def runProgram (level : Level) (mode : Mode) (name : String) (arguments : List String) :
    Work Unit := do
  let shell ← get
  match shell.machine.findProgram shell.directory ((shell.value? "PATH").getD "") name with
  | .error fault =>
    complain s!"{name}: {fault.message}"
    setStatus (if name.contains '/' then fault.shellCode else LaunchFault.missing.shellCode)
  | .ok path =>
    Builtin.track name
    if mode.last && shell.traps.all (·.2.isEmpty) then
      throw (.gone (← startProgram level shell.process path name arguments))
    else
      let status ← startProgram level (← act Machine.number) path name arguments
      tellOf status
      setStatus status.shellCode
      noteEnd

/-- Runs a program in the place of the shell. -/
def replaceShell (level : Level) (arguments : List String) : Work Unit := do
  match arguments with
  | [] => setStatus 0
  | name :: arguments =>
    let shell ← get
    match shell.machine.findProgram shell.directory ((shell.value? "PATH").getD "") name with
    | .error fault =>
      complain s!"{name}: {fault.message}"
      throw (.exit fault.shellCode)
    | .ok path => throw (.gone (← startProgram level shell.process path name arguments))

/-- Puts back the variables that were local. -/
def restoreLocals : List (String × Option Variable) → Work Unit
  | [] => return
  | (name, old) :: rest => do
    match old with
    | none => forget name
    | some variable_ =>
      if name = Builtin.optionsName then
        modify fun shell => { shell with options := (variable_.value.getD "").toList }
      else put name variable_
    restoreLocals rest

/-- Calls a function. -/
def callFunction (level : Level) (mode : Mode) (body : Script) (arguments : List String) :
    Work Unit := do
  let outside ← get
  if functionDepth ≤ outside.calls then
    abort s!"Maximum function recursion depth ({functionDepth}) reached"
  set { outside with
    parameters := arguments, optionIndex := 1, optionOffset := none, loops := 0
    calls := outside.calls + 1, locals := [] :: outside.locals }
  let result ← attempt (level.command ⟨mode.tested, false⟩ body)
  restoreLocals ((← get).locals.head?.getD [])
  modify fun shell =>
    { shell with
      parameters := outside.parameters, optionIndex := outside.optionIndex
      optionOffset := outside.optionOffset, loops := outside.loops, calls := outside.calls
      locals := outside.locals }
  match result with
  | .ok _ | .error .function => return
  | .error leave => throw leave

/-- Runs a builtin command. Mistakes end the shell only if the command is special. -/
def runBuiltin (level : Level) (mode : Mode) (action : Builtin) (call : Call) : Work Unit := do
  let body : Work Unit := do
    let status ← action level mode call.arguments
    if (← get).broken then
      complain s!"{call.name}: I/O error"
      modify fun shell => { shell with broken := false }
      setStatus (status ||| 1)
    else setStatus status
  match ← attempt (speaking s!"{call.name}: " body) with
  | .ok _ => return
  | .error .fault =>
    setStatus 2
    if call.special then throw .fault
  | .error leave => throw leave

/-- Carries out a call. -/
def carryOut (level : Level) (mode : Mode) (call : Call) : Work Unit := do
  match call.callee with
  | .nothing => setStatus ((← get).inner.getD 0)
  | .function body => callFunction level mode body call.arguments
  | .builtin action => runBuiltin level mode action call
  | .replacement => speaking "exec: " (replaceShell level call.arguments)
  | .description inSentence =>
    let describe : Builtin := fun _ _ => Builtin.tellKind Builtin.names inSentence
    runBuiltin level mode describe call
  | .program => runProgram level mode call.name call.arguments

/-! ### Simple commands -/

/-- Makes assignments; the variables as they were before, newest first, and what is shown of the
assignments. -/
def assignAll (level : Level) (exporting : Bool) :
    List (String × Word) → Work (List (String × Option Variable) × List String)
  | [] => return ([], [])
  | (name, word) :: rest => do
    let text ← assignedText level word
    let old := (← get).binding? name
    assign name text
    if exporting then
      put name { ((← get).binding? name).getD ⟨some text, true, false⟩ with exported := true }
    let (olds, shown) ← assignAll level exporting rest
    return (olds ++ [(name, old)], s!"{name}={text}" :: shown)

/-- Shows a command that is about to be run, if the shell is to show its commands. -/
def trace (channel : Option Channel) (words : List String) : Work Unit := do
  let shell ← get
  if shell.options.contains 'x' && !words.isEmpty then
    let mark := (shell.value? "PS4").getD ""
    discard (act (Machine.writeTo channel (mark ++ " ".intercalate words ++ "\n")))

/-- Runs a simple command. -/
def runSimple (level : Level) (mode : Mode) (line : Nat) (assignments : List (String × Word))
    (words : List Word) (redirections : List Redirection) : Work Unit := do
  countCommand
  modify fun shell => { shell with line, inner := none }
  let fields ← commandFields level [] words
  let shell ← get
  let call := shell.callOf fields
  let openings ← openingsOf level redirections
  let replaces := call.callee matches .replacement
  let keep := replaces && call.arguments.isEmpty
  let stays := call.special || (call.callee matches .nothing)
  let exporting := !stays || (replaces && !call.arguments.isEmpty)
  let refused : Work Unit := do
    setStatus 2
    if call.special then throw .fault
  withRedirections openings keep refused do
    let (olds, shown) ← assignAll level exporting assignments
    trace (shell.channels.lookup 2) (shown ++ fields)
    let result ← attempt (carryOut level mode call)
    if !stays then restoreLocals olds
    match result with
    | .ok _ => return
    | .error leave => throw leave

/-! ### Processes -/

/-- Runs the stages of a pipeline, of which every one reads what the one before writes; the status
of the last. All of them begin at the same time. -/
def runStages (level : Level) (mode : Mode) (start : Nat) (input : Option Channel) :
    List Script → Work ProcessStatus
  | [] => return .exited 0
  | [stage] => do
    let prepare (shell : Shell) : Shell :=
      match input with
      | some channel => { shell with channels := redirectTo 0 (some channel) shell.channels }
      | none => shell
    let status ← fork level (← act Machine.number) prepare (level.command ⟨mode.tested, true⟩ stage)
    tellOf status
    return status
  | stage :: stages => do
    let sink ← act Machine.number
    let prepare (shell : Shell) : Shell :=
      let channels :=
        match input with
        | some channel => redirectTo 0 (some channel) shell.channels
        | none => shell.channels
      { shell with channels := redirectTo 1 (some (.sink sink)) channels }
    let process ← act Machine.number
    let status ← withPatience Machine.sharedPatience
      (fork level process prepare (level.command ⟨mode.tested, true⟩ stage))
    let supplies ← act (Machine.collect sink)
    let source ← act (Machine.supply supplies)
    let finish := (← get).machine.clock
    tellOf status
    modify fun shell => { shell with machine := { shell.machine with clock := start } }
    let last ← runStages level mode start (some (.source source)) stages
    if status != .signalled pipeSignal then act (Machine.waitUntil finish)
    return last

/-- Runs a command beside the shell. It reads nothing and does not notice a person's signals. -/
def runBackground (level : Level) (body : Script) : Work Unit := do
  let process ← act Machine.number
  let mark ← act Machine.number
  let outside := (← get).machine
  modify fun shell => { shell with machine := { shell.machine with job := mark } }
  let ignored := interruptSignals ++ (← get).ignoredSignals
  let prepare (shell : Shell) : Shell :=
    { shell with channels := redirectTo 0 (some .null) shell.channels, ignored }
  let status ← withPatience Machine.sharedPatience
    (fork level process prepare (level.command ⟨false, true⟩ body))
  modify fun shell =>
    let job : BackgroundJob := ⟨process, mark, status, shell.machine.clock, false, ignored⟩
    let machine :=
      { shell.machine with
        clock := outside.clock, job := outside.job
        jobs := shell.machine.jobs ++ [job] }
    let number := (shell.jobs.getLast?.map Prod.fst).getD 0 + 1
    { shell with
      machine, lastBackground := some process, jobs := shell.jobs ++ [(number, process)] }
  setStatus 0

/-! ### Loops -/

/-- Runs one part of a loop; true if the loop goes on. -/
def runRound (body : Work Unit) : Work Bool := do
  match ← attempt body with
  | .ok _ => return true
  | .error (.loops count again) =>
    if 1 < count then throw (.loops (count - 1) again) else return again
  | .error leave => throw leave

/-- Counts the loop that runs. -/
def inLoop (body : Work Unit) : Work Unit := do
  let loops := (← get).loops
  modify fun shell => { shell with loops := loops + 1 }
  let result ← attempt body
  modify fun shell => { shell with loops }
  match result with
  | .ok _ => return
  | .error leave => throw leave

/-- Runs a loop for at most a number of rounds. -/
def runLoop (level : Level) (mode : Mode) (success : Bool) (test body : Script) (status : Nat) :
    Nat → Work Unit
  | 0 => setStatus status
  | rounds + 1 => do
    let tested ← runRound (level.command ⟨true, false⟩ test)
    if !tested then return
    else if ((← get).status = 0) != success then setStatus status
    else if ← runRound (level.command ⟨mode.tested, false⟩ body) then
      runLoop level mode success test body (← get).status rounds

/-- Runs a body for every field. -/
def runEach (level : Level) (mode : Mode) (name : String) (body : Script) :
    List String → Work Unit
  | [] => return
  | field :: fields => do
    assign name field
    if ← runRound (level.command ⟨mode.tested, false⟩ body) then
      runEach level mode name body fields

/-- Runs the first branch of which a pattern matches. -/
def runBranches (level : Level) (mode : Mode) (text : String) :
    List (List Word × Script) → Work Unit
  | [] => setStatus 0
  | (patterns, body) :: branches => do
    if ← matchesAny patterns then
      setStatus 0
      level.command mode body
    else runBranches level mode text branches
where
  matchesAny : List Word → Work Bool
    | [] => return false
    | pattern :: patterns => do
      if matchesPattern (← wordPattern level pattern) text then return true
      else matchesAny patterns

/-! ### Commands -/

/-- Whether the failure of a command ends a shell that is to end at failures. -/
def isChecked : Script → Bool
  | .simple .. | .pipeline _ | .subshell _ | .redirected .. => true
  | _ => false

/-- Runs a command. -/
def runCommand (level : Level) (mode : Mode) (script : Script) : Work Unit := do
  checkSignals level
  if (← get).options.contains 'n' then return
  match script with
  | .nothing => return
  | .simple line assignments words redirections =>
    runSimple level mode line assignments words redirections
  | .pipeline stages =>
    setStatus (← runStages level mode (← get).machine.clock none stages).shellCode
  | .inverse body =>
    level.command ⟨true, false⟩ body
    setStatus (if (← get).status = 0 then 1 else 0)
  | .sequence first second =>
    level.command ⟨mode.tested, false⟩ first
    level.command mode second
  | .both first second =>
    level.command ⟨true, false⟩ first
    if (← get).status = 0 then level.command mode second
  | .either first second =>
    level.command ⟨true, false⟩ first
    if (← get).status != 0 then level.command mode second
  | .background body => runBackground level body
  | .subshell body =>
    let shell ← get
    if mode.last && shell.traps.all (·.2.isEmpty) then level.command mode body
    else
      let process ← act Machine.number
      let status ← fork level process id (level.command ⟨mode.tested, true⟩ body)
      tellOf status
      setStatus status.shellCode
  | .redirected line (.subshell body) redirections =>
    modify fun shell => { shell with line }
    let openings ← openingsOf level redirections
    let process ← act Machine.number
    let refused : Work Unit := throw .fault
    let status ← fork level process id
      (withRedirections openings true refused (level.command ⟨mode.tested, true⟩ body))
    tellOf status
    setStatus status.shellCode
  | .redirected line body redirections =>
    modify fun shell => { shell with line }
    let openings ← openingsOf level redirections
    withRedirections openings false (setStatus 2) (level.command ⟨mode.tested, false⟩ body)
  | .choice test yes no =>
    level.command ⟨true, false⟩ test
    if (← get).status = 0 then level.command mode yes
    else
      setStatus 0
      level.command mode no
  | .loop success test body => inLoop (runLoop level mode success test body 0 Machine.patience)
  | .each line name words body =>
    modify fun shell => { shell with line }
    let fields ← allFields level words
    setStatus 0
    inLoop (runEach level mode name body fields)
  | .select line word branches =>
    modify fun shell => { shell with line }
    runBranches level mode (← singleText level word) branches
  | .function name body =>
    modify fun shell =>
      { shell with functions := (name, body) :: shell.functions.filter (·.1 != name) }
    setStatus 0
  checkSignals level
  let shell ← get
  if isChecked script && !mode.tested && shell.options.contains 'e' && shell.status != 0 then
    throw (.exit shell.status)

end Shell
end EntryTree.Command
