import EntryTree.Command.Shell.Run

/-!
# Starting shells

A shell takes its script from an argument, from a file or from its standard input, and its
variables from the environment.
-/

namespace EntryTree.Command

namespace Shell

/-- What the arguments of a shell ask for. -/
structure Wish where
  /-- The options that are turned on. -/
  options : List Char
  /-- The script is an argument. -/
  fromArgument : Bool
  /-- The script is the standard input. -/
  fromInput : Bool
  rest : List String

/-- Reads the letters of an option argument, given the arguments behind it. -/
def wishLetters (wish : Wish) (on : Bool) : List Char → List String → Except String Wish
  | [], rest => .ok { wish with rest }
  | 'c' :: letters, rest => wishLetters { wish with fromArgument := true } on letters rest
  | 'l' :: letters, rest => wishLetters wish on letters rest
  | 'o' :: letters, rest =>
    match rest with
    | [] => wishLetters wish on letters []
    | name :: rest =>
      match Builtin.optionNames.lookup name with
      | some letter => wishLetters (turned wish letter) on letters rest
      | none => .error (if on then s!"Illegal option -o {name}" else s!"Illegal option +o {name}")
  | letter :: letters, rest =>
    if letter.isAlpha && Builtin.optionNames.any (·.2 = letter) then
      wishLetters (turned wish letter) on letters rest
    else .error s!"Illegal option -{letter}"
where
  turned (wish : Wish) (letter : Char) : Wish :=
    let others := wish.options.filter (· != letter)
    { wish with
      options := if on then letter :: others else others
      fromInput := if letter = 's' then on else wish.fromInput }

/-- Reads the options of a shell among at most `steps` arguments. -/
def wishes (wish : Wish) : Nat → Except String Wish
  | 0 => .ok wish
  | steps + 1 =>
    match wish.rest with
    | [] => .ok wish
    | argument :: rest =>
      match argument.toList with
      | ['-'] | ['-', '-'] => .ok { wish with rest }
      | '-' :: letters => do wishes (← wishLetters wish true letters rest) steps
      | '+' :: letters => do wishes (← wishLetters wish false letters rest) steps
      | _ => .ok wish

/-- The variables of a shell that starts. -/
def startVariables (environment : List (String × String)) (directory : String) :
    List (String × Variable) :=
  let given := environment.filter fun (name, _) =>
    isName name && ["IFS", "OPTIND", "PPID", "PWD", "PS4"].all (· != name)
  let plain (name value : String) : List (String × Variable) :=
    if (given.lookup name).isSome then [] else [(name, ⟨some value, false, false⟩)]
  plain "IFS" " \t\n" ++ plain "OPTIND" "1" ++
    plain "PATH" "/usr/local/sbin:/usr/local/bin:/usr/sbin:/usr/bin:/sbin:/bin" ++
    plain "PPID" (toString (Machine.firstProcess - 1)) ++ plain "PS1" "# " ++ plain "PS2" "> " ++
    plain "PS4" "+ " ++ given.map (fun (name, value) => (name, ⟨some value, true, false⟩)) ++
    [("PWD", ⟨some directory, true, false⟩)]

/-- A shell that starts. -/
def ofInvocation (invocation : Invocation) (name : String) (parameters : List String)
    (options : List Char) (machine : Machine) : Shell where
  name
  speaker := ""
  parameters
  bindings := startVariables invocation.environment invocation.directory
  functions := []
  aliases := []
  traps := []
  ignored := invocation.ignored
  interrupted := none
  options
  status := 0
  inner := none
  process := invocation.process
  mainProcess := invocation.process
  lastBackground := none
  jobs := []
  tracked := []
  channels := invocation.channels
  directory := invocation.directory
  locals := []
  line := 0
  loops := 0
  calls := 0
  optionIndex := 1
  optionOffset := none
  broken := false
  mask := 18
  machine

/-- Runs a shell with a body to its end. -/
def runShell (level : Level) (shell : Machine → Shell) (body : Work Unit) : Act ProcessStatus := do
  let machine ← get
  let shell := shell { machine with shells := (shell machine).process :: machine.shells }
  let (status, after) := (finish level body).run shell
  set { after.machine with shells := after.machine.shells.filter (· != shell.process) }
  return status

/-- The program of shells. -/
def program (level : Level) : Program := fun invocation => do
  let fail (message : String) : Act ProcessStatus := do
    invocation.complain s!"{invocation.name}: 0: {message}\n"
    return .exited 2
  let run (name : String) (parameters : List String) (options : List Char) (body : Work Unit) :
      Act ProcessStatus :=
    runShell level (ofInvocation invocation name parameters options) body
  let runScript (text : String) : Work Unit := runText level text 1 ⟨false, false⟩
  match wishes ⟨[], false, false, invocation.arguments⟩ (invocation.arguments.length + 1) with
  | .error message => fail message
  | .ok wish =>
    if wish.fromArgument then
      match wish.rest with
      | [] => fail "-c requires an argument"
      | [text] => run invocation.name [] wish.options (runScript text)
      | text :: name :: parameters => run name parameters wish.options (runScript text)
    else if wish.fromInput || wish.rest.isEmpty then
      let body : Work Unit := do
        let text ← act (Machine.readText (invocation.channel 0))
        runScript text
      run invocation.name wish.rest ('s' :: wish.options.filter (· != 's')) body
    else
      match wish.rest with
      | [] => return .exited 0
      | name :: parameters =>
        match ← Machine.openToRead invocation.directory name with
        | .error message =>
          let reason :=
            if message = "No such file or directory" || message = "Not a directory" then
              "No such file"
            else message
          fail s!"cannot open {name}: {reason}"
        | .ok channel =>
          let text ← Machine.readText (some channel)
          run name parameters wish.options (runScript text)

end Shell
end EntryTree.Command
