import EntryTree.Command.Program.Invocation

/-!
# Finding programs

The file of a program is a path, or is looked for in the directories of a search path.
-/

namespace EntryTree.Command

/-- Why a program cannot be started. -/
inductive LaunchFault
  | missing
  /-- A file stands where a directory is needed. -/
  | misplaced
  | denied
  deriving DecidableEq, Repr

namespace LaunchFault

/-- What a shell tells about it. -/
def message : LaunchFault → String
  | .missing | .misplaced => "not found"
  | .denied => "Permission denied"

/-- What other programs tell about it. -/
def reason : LaunchFault → String
  | .missing => "No such file or directory"
  | .misplaced => "Not a directory"
  | .denied => "Permission denied"

/-- The status of a command that a shell cannot start. -/
def shellCode : LaunchFault → Nat
  | .missing | .misplaced => 127
  | .denied => 126

/-- The status of a program that cannot start another one. -/
def code : LaunchFault → Nat
  | .missing => 127
  | .misplaced | .denied => 126

end LaunchFault

namespace Machine

/-- The file of the program that a path leads to. -/
def programAt (machine : Machine) (directory path : String) : Except LaunchFault String :=
  let resolved := resolve directory path
  match machine.kind? resolved with
  | some .program => if path.endsWith "/" then .error .misplaced else .ok resolved
  | some .directory => .error .denied
  | some _ => .error (if path.endsWith "/" then .misplaced else .denied)
  | none =>
    match machine.kind? (parent resolved) with
    | none | some .directory => .error .missing
    | some _ => .error .misplaced

/-- The file of the program of a name, which is looked for in the directories of a search path
unless it is a path itself. -/
def findProgram (machine : Machine) (directory searchPath name : String) :
    Except LaunchFault String :=
  if name.contains '/' then machine.programAt directory name
  else
    let outcomes := (searchPath.splitToList (· == ':')).map fun place =>
      machine.programAt directory (if place.isEmpty then "./" ++ name else place ++ "/" ++ name)
    match outcomes.find? (·.toOption.isSome) with
    | some found => found
    | none => .error (if outcomes.any (· matches .error .denied) then .denied else .missing)

end Machine

/-- The search path where none is given. -/
def defaultSearchPath : String := "/bin:/usr/bin"

namespace Invocation

/-- Starts another program with the descriptors of an invocation, or says why it cannot be. -/
def start (invocation : Invocation) (launch : Program) (name : String) (arguments : List String) :
    Act (Except LaunchFault ProcessStatus) := do
  let searchPath := (invocation.environment.lookup "PATH").getD defaultSearchPath
  match (← get).findProgram invocation.directory searchPath name with
  | .error fault => return .error (if name.isEmpty then .missing else fault)
  | .ok path => return .ok (← launch { invocation with name, path, arguments })

end Invocation
end EntryTree.Command
