import EntryTree.Command.Shell.Builtin.Commands
import EntryTree.Command.Shell.Builtin.Processes
import EntryTree.Command.Shell.Builtin.Variables

/-!
# The commands of a shell by name

Two of them, `exec` and `command`, are part of how commands are run.
-/

namespace EntryTree.Command

namespace Builtin

/-- The names of all builtin commands. -/
def names : List String :=
  specialNames ++
    ["alias", "bg", "cd", "chdir", "command", "echo", "false", "fg", "getopts", "hash", "jobs",
      "kill", "printf", "pwd", "read", "test", "[", "true", "type", "ulimit", "umask", "unalias",
      "wait"]

/-- The commands that read assignments among their arguments. -/
def assigningNames : List String :=
  ["export", "readonly", "local", "alias"]

/-- A command that does nothing but bring a status. -/
def constant (status : Nat) : Builtin := fun _ _ _ => return status

/-- The builtin command of a name. -/
def find? (name : String) : Option Builtin :=
  match name with
  | ":" | "true" => some (constant 0)
  | "false" => some (constant 1)
  | "." => some runFile
  | "break" => some (leaveLoop false)
  | "continue" => some (leaveLoop true)
  | "eval" => some evaluate
  | "exit" => some exit
  | "return" => some leaveFunction
  | "export" => some exportVariables
  | "readonly" => some keepVariables
  | "local" => some localVariables
  | "set" => some setOptions
  | "shift" => some shiftParameters
  | "times" => some times
  | "trap" => some setHandlers
  | "unset" => some unset
  | "alias" => some setAliases
  | "unalias" => some removeAliases
  | "bg" | "fg" => some moveJob
  | "cd" | "chdir" => some changeDirectory
  | "pwd" => some tellDirectory
  | "echo" => some echo
  | "printf" => some printf
  | "test" => some (test false)
  | "[" => some (test true)
  | "getopts" => some nextOption
  | "read" => some readLine
  | "hash" => some tellPrograms
  | "type" => some (tellKinds names)
  | "jobs" => some listJobs
  | "kill" => some sendSignal
  | "wait" => some wait
  | "ulimit" => some limits
  | "umask" => some mask
  | _ => none

end Builtin
end EntryTree.Command
