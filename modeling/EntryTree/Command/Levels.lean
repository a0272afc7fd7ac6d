import EntryTree.Command.Program.Table
import EntryTree.Command.Shell.Start

/-!
# Levels of running

Programs and shells start one another. Every start takes a level, as does every part of a script
that is run by a shell.
-/

namespace EntryTree.Command

/-- The last step of a path. -/
def lastStep (path : String) : String :=
  (path.splitToList (· == '/')).getLast?.getD path

/-- How parts of scripts and programs are run with a number of levels below. A program that is not
known does nothing. -/
def levelAt : Nat → Level
  | 0 => ⟨fun _ _ => return, constantProgram 0⟩
  | below + 1 =>
    { command := fun mode script => Shell.runCommand (levelAt below) mode script
      launch := fun invocation =>
        let level := levelAt below
        ((programOf? level.launch (Shell.program level) (lastStep invocation.path)).getD
          (constantProgram 0)) invocation }

/-- How many levels a first program is given. -/
def systemDepth : Nat := 4000

end EntryTree.Command
