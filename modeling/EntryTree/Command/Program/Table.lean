import EntryTree.Command.Program.Condition
import EntryTree.Command.Program.Dump
import EntryTree.Command.Program.Files
import EntryTree.Command.Program.Print
import EntryTree.Command.Program.Search
import EntryTree.Command.Program.Stream
import EntryTree.Command.Program.Wrapper

/-!
# The programs of the system by name
-/

namespace EntryTree.Command

/-- A program that does nothing but bring a status. -/
def constantProgram (code : Nat) : Program := fun _ => return .exited code

/-- `kill`: a signal to processes. -/
def signalProcesses : Program := fun invocation => do
  let (signal?, processes) :=
    match invocation.arguments with
    | "-s" :: name :: rest => (signalOf? name, rest)
    | first :: rest =>
      if first.startsWith "-" then (signalOf? (first.drop 1).toString, rest)
      else (some endSignal, first :: rest)
    | [] => (some endSignal, [])
  match signal? with
  | none =>
    let wrong := (invocation.arguments.head?.getD "").drop 1
    invocation.fail s!"unknown signal name {wrong}" 1
  | some signal =>
    let mut code := 0
    for process in processes do
      match process.toNat? with
      | none =>
        code ← pure 1
        invocation.complain s!"{invocation.name}: failed to parse argument: '{process}'\n"
      | some number =>
        if !(← Machine.send number signal) then
          code ← pure 1
          invocation.complain s!"{invocation.name}: ({number}): No such process\n"
    return .exited code

/-- The program of a name; `launch` starts programs and `shell` is the program of shells. -/
def programOf? (launch shell : Program) (name : String) : Option Program :=
  match name with
  | "sh" | "dash" => some shell
  | "true" | "sync" => some (constantProgram 0)
  | "false" => some (constantProgram 1)
  | "echo" => some echo
  | "printf" => some printf
  | "cat" => some cat
  | "tee" => some tee
  | "yes" => some yes
  | "head" => some head
  | "tail" => some tail
  | "wc" => some wordCount
  | "sort" => some sort
  | "uniq" => some uniq
  | "tac" => some tac
  | "rev" => some rev
  | "nl" => some numberLines
  | "fold" => some foldLines
  | "tr" => some translate
  | "cut" => some cut
  | "paste" => some paste
  | "seq" => some sequence
  | "test" | "[" => some test
  | "grep" | "egrep" | "fgrep" => some grep
  | "sed" => some editStream
  | "expr" => some expression
  | "mkdir" => some makeDirectories
  | "rmdir" => some removeDirectories
  | "rm" => some remove
  | "touch" => some touch
  | "cp" => some (copy true)
  | "mv" => some (copy false)
  | "ls" => some list
  | "basename" => some baseName
  | "dirname" => some directoryName
  | "pwd" => some printDirectory
  | "printenv" => some printEnvironment
  | "id" | "whoami" => some identity
  | "uname" => some systemName
  | "sleep" => some sleep
  | "dd" => some copyBlocks
  | "od" => some dumpBytes
  | "kill" => some signalProcesses
  | "base64" => some base64
  | "env" => some (runInEnvironment launch)
  | "timeout" => some (limitTime launch)
  | "nohup" => some (ignoreLeaving launch)
  | "nice" => some (runNicely launch)
  | "stdbuf" => some (runBuffered launch)
  | "setsid" => some (runInSession launch)
  | "xargs" => some (runWithInput launch)
  | _ => none

end EntryTree.Command
