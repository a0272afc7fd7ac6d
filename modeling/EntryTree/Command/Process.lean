import EntryTree.Command.Signal
import EntryTree.Exec.Session

/-!
# Processes

What can be observed of a local process: the data it writes to its two streams, in the order of
the writes, and how it ends. A process that is ended by a signal has no exit code, and waiting for
one fails with the number of the signal and its name.

The texts of processes are strings of which every character stands for one byte.
-/

namespace EntryTree.Command

/-- How a process ended. -/
inductive ProcessStatus
  | exited (code : Nat)
  | signalled (signal : Nat)
  deriving DecidableEq, Repr

namespace ProcessStatus

/-- What waiting for the exit code brings. -/
def exitCode : ProcessStatus → Except Fault Int
  | .exited code => .ok code
  | .signalled signal =>
    let name :=
      match signalName? signal with
      | some name => s!" (SIG{name})"
      | none => ""
    .error (.exec s!"process terminated: signal: {signal}{name}")

/-- The status that a shell sees. -/
def shellCode : ProcessStatus → Nat
  | .exited code => code
  | .signalled signal => 128 + signal

end ProcessStatus

/-- Data that is written to a stream. -/
structure Write where
  stream : OutputStream
  data : List UInt8
  deriving DecidableEq, Repr

/-- What a process writes and how it ends. -/
structure Run where
  writes : List Write
  status : ProcessStatus
  deriving DecidableEq, Repr

/-- The text of which every character stands for a byte of the encoding of a text. -/
def encode (text : String) : String :=
  String.ofList (text.toUTF8.toList.map fun byte => Char.ofNat byte.toNat)

/-- The bytes that the characters of a text stand for. -/
def bytesOf (text : String) : List UInt8 :=
  text.toList.map fun c => c.toNat.toUInt8

/-- The text of which every character stands for one of the bytes. -/
def ofBytes (bytes : List UInt8) : String :=
  String.ofList (bytes.map fun byte => Char.ofNat byte.toNat)

end EntryTree.Command
