import EntryTree.Command.Program.Invocation
import EntryTree.Command.Script.Reader

/-!
# The state of a shell

What a shell keeps while it runs a script: its parameters and variables, functions, handlers of
signals, open descriptors, and the processes that it started in the background. Commands may leave
what they are part of: a loop, a function, or the shell.
-/

namespace EntryTree.Command

/-- A variable of a shell. One without a value is declared only. -/
structure Variable where
  value : Option String
  exported : Bool := false
  readOnly : Bool := false

/-- A shell and the machine it runs on. -/
structure Shell where
  /-- The name in front of complaints, and the first parameter. -/
  name : String
  /-- What stands between the line and the message of a complaint. -/
  speaker : String
  parameters : List String
  bindings : List (String × Variable)
  functions : List (String × Script)
  aliases : List (String × String)
  /-- The handlers of signals, zero being the end of the shell. An empty one ignores a signal. -/
  traps : List (Nat × String)
  /-- The signals that were ignored when the shell was started, which cannot be handled. -/
  ignored : List Nat
  /-- While a handler runs, the status of the command before it. -/
  interrupted : Option Nat
  /-- The letters of the options that are on. -/
  options : List Char
  /-- The status of the last command. -/
  status : Nat
  /-- The status of the last script inside a word, if there was one since the command began. -/
  inner : Option Nat
  process : Nat
  /-- The process that `$$` names. -/
  mainProcess : Nat
  lastBackground : Option Nat
  /-- The background jobs that were not told of as done: their numbers and processes. -/
  jobs : List (Nat × Nat)
  /-- The names of the programs that were looked up. -/
  tracked : List String
  channels : List (Nat × Channel)
  directory : String
  /-- For every running function, the variables that are local to it, as they were outside. -/
  locals : List (List (String × Option Variable))
  line : Nat
  /-- How many loops are running. -/
  loops : Nat
  /-- How many functions are running. -/
  calls : Nat
  /-- The argument that `getopts` looks at next, from one on. -/
  optionIndex : Nat
  /-- How many characters of the argument before it `getopts` has gone through, if it is not done
  with it. -/
  optionOffset : Option Nat
  /-- Writing to the standard output has failed. -/
  broken : Bool
  mask : Nat
  machine : Machine

/-- How a command leaves what it is part of. -/
inductive Leave
  /-- It ends loops, or the rest of a round of the last of them. -/
  | loops (count : Nat) (again : Bool)
  | function
  /-- It ends the shell with a status. -/
  | exit (code : Nat)
  /-- It has gone wrong, which ends the shell as well, unless the command is one that may. -/
  | fault
  /-- The process of the shell has ended. -/
  | gone (status : ProcessStatus)

/-- A step of a shell. -/
abbrev Work := ExceptT Leave (StateM Shell)

instance : Inhabited Leave := ⟨.function⟩

/-- How a command is run. -/
structure Mode where
  /-- Its failure is looked at by the script. -/
  tested : Bool
  /-- Nothing comes after it in its process. -/
  last : Bool

/-- How the parts of scripts are run: commands by the shell itself, and programs by name. -/
structure Level where
  command : Mode → Script → Work Unit
  launch : Program

namespace Shell

/-- Lets a process do something to the machine. -/
def act {α : Type} (action : Act α) : Work α :=
  modifyGet fun shell =>
    let (result, machine) := action.run shell.machine
    (result, { shell with machine })

/-- Sets the status of the last command. -/
def setStatus (status : Nat) : Work Unit :=
  modify fun shell => { shell with status }

/-- Writes a text to a descriptor. -/
def write (descriptor : Nat) (text : String) : Work WriteOutcome := do
  let shell ← get
  act (Machine.writeTo (shell.channels.lookup descriptor) text)

/-- Writes a text to the standard error. -/
def report (text : String) : Work Unit :=
  discard (write 2 text)

/-- Complains about a line of the script. -/
def complainAt (line : Nat) (message : String) : Work Unit := do
  let shell ← get
  report s!"{shell.name}: {line}: {shell.speaker}{message}\n"

/-- Complains about the current line. -/
def complain (message : String) : Work Unit := do
  complainAt (← get).line message

/-- Does something and says how it left what it is part of, if it did. -/
def attempt {α : Type} (body : Work α) : Work (Except Leave α) :=
  ExceptT.lift body.run

/-- Does something with a part of complaints between the line and the message. -/
def speaking {α : Type} (speaker : String) (body : Work α) : Work α := do
  let before := (← get).speaker
  modify fun shell => { shell with speaker }
  let result ← attempt body
  modify fun shell => { shell with speaker := before }
  match result with
  | .ok value => return value
  | .error leave => throw leave

/-- Complains and goes wrong. -/
def abort {α : Type} (message : String) : Work α := do
  complain message
  throw .fault

/-! ### Variables -/

/-- The variable of a name. -/
def binding? (shell : Shell) (name : String) : Option Variable :=
  shell.bindings.lookup name

/-- The value of a variable. -/
def value? (shell : Shell) (name : String) : Option String :=
  (shell.binding? name).bind Variable.value

/-- Puts a variable in the place of one of the same name, or behind all others. -/
def place (name : String) (variable_ : Variable) :
    List (String × Variable) → List (String × Variable)
  | [] => [(name, variable_)]
  | (other, old) :: rest =>
    if other = name then (name, variable_) :: rest else (other, old) :: place name variable_ rest

/-- Puts a variable into the shell. -/
def put (name : String) (variable_ : Variable) : Work Unit :=
  modify fun shell => { shell with bindings := place name variable_ shell.bindings }

/-- Removes a variable. -/
def forget (name : String) : Work Unit :=
  modify fun shell => { shell with bindings := shell.bindings.filter (·.1 != name) }

/-- Gives a value to a variable. -/
def assign (name value : String) : Work Unit := do
  let shell ← get
  let old := (shell.binding? name).getD ⟨none, false, false⟩
  if old.readOnly then abort s!"{name}: is read only"
  else
    let exported := old.exported || shell.options.contains 'a'
    put name { old with value := some value, exported }
    if name = "OPTIND" then
      modify fun shell =>
        { shell with optionIndex := max 1 (value.toNat?.getD 1), optionOffset := none }

/-- The separators of fields. -/
def separators (shell : Shell) : String :=
  match shell.binding? "IFS" with
  | some variable_ => variable_.value.getD " \t\n"
  | none => " \t\n"

/-- The number of buckets that the names of variables are kept in, and those of aliases. -/
def variableBuckets : Nat := 39

/-- The number of buckets that the names of programs are kept in. -/
def trackedBuckets : Nat := 31

/-- The bucket of a name. Names are listed by buckets, and in a bucket in the order in which they
came. -/
def rank (buckets : Nat) (name : String) : Nat :=
  let codes := name.toList.map Char.toNat
  (16 * (codes.head?.getD 0) + codes.foldl (· + ·) 0) % 32768 % buckets

/-- The variables that programs are passed. -/
def environment (shell : Shell) : List (String × String) :=
  let passed := shell.bindings.filterMap fun (name, variable_) =>
    if variable_.exported then variable_.value.map fun value => (name, value) else none
  passed.mergeSort fun first second =>
    rank variableBuckets first.1 ≤ rank variableBuckets second.1

/-- The letters of the options in the order in which they are told. -/
def optionLetters : List Char :=
  ['p', 'u', 'b', 'a', 'C', 'E', 'V', 'v', 'x', 's', 'n', 'm', 'i', 'I', 'f', 'e']

/-- The value of a parameter, if it is set. Those that stand for all parameters at once are not
looked up here. -/
def parameter? (shell : Shell) (name : String) : Option String :=
  match name with
  | "?" => some (toString shell.status)
  | "$" => some (toString shell.mainProcess)
  | "!" => shell.lastBackground.map toString
  | "#" => some (toString shell.parameters.length)
  | "-" => some (String.ofList (optionLetters.filter shell.options.contains))
  | "0" => some shell.name
  | name =>
    if name.toList.all Char.isDigit then shell.parameters[position name - 1]?
    else shell.value? name
where
  position (name : String) : Nat :=
    name.toList.foldl (fun value c => 10 * value + (c.toNat - '0'.toNat)) 0

end Shell
end EntryTree.Command
