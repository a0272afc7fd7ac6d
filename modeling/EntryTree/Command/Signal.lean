/-!
# Signals

The signals of the machine that commands run on, by number. A signal without a handler ends a
process, unless it belongs to the few that are ignored. The last ones are for real-time use and
have no names of their own.
-/

namespace EntryTree.Command

/-- The names of the signals that have one, from number one on. -/
def signalNames : List String :=
  ["HUP", "INT", "QUIT", "ILL", "TRAP", "ABRT", "BUS", "FPE", "KILL", "USR1", "SEGV", "USR2",
    "PIPE", "ALRM", "TERM", "STKFLT", "CHLD", "CONT", "STOP", "TSTP", "TTIN", "TTOU", "URG",
    "XCPU", "XFSZ", "VTALRM", "PROF", "WINCH", "IO", "PWR", "SYS"]

/-- The name of a signal, if it has one. -/
def signalName? (signal : Nat) : Option String :=
  if signal = 0 then none else signalNames[signal - 1]?

/-- The number of the last signal. -/
def lastSignal : Nat := 64

/-- The signals by which a person interrupts what runs. -/
def interruptSignals : List Nat := [2, 3]

/-- The signal that a process cannot handle. -/
def killSignal : Nat := 9

/-- The signal to a process that writes what nobody will read. -/
def pipeSignal : Nat := 13

/-- The signal that asks a process to end. -/
def endSignal : Nat := 15

/-- The signal to a process of which a child has ended. -/
def childSignal : Nat := 17

/-- The signals that do nothing to a process without a handler. -/
def harmlessSignals : List Nat :=
  [17, 18, 19, 20, 21, 22, 23, 28]

/-- The first and the last signal for real-time use. -/
def realTimeSignals : Nat × Nat := (34, 64)

/-- What a person is told about a process that a signal ended. -/
def signalDescriptions : List String :=
  ["Hangup", "Interrupt", "Quit", "Illegal instruction", "Trace/breakpoint trap", "Aborted",
    "Bus error", "Floating point exception", "Killed", "User defined signal 1",
    "Segmentation fault", "User defined signal 2", "Broken pipe", "Alarm clock", "Terminated",
    "Stack fault", "Child exited", "Continued", "Stopped (signal)", "Stopped",
    "Stopped (tty input)", "Stopped (tty output)", "Urgent I/O condition",
    "CPU time limit exceeded", "File size limit exceeded", "Virtual timer expired",
    "Profiling timer expired", "Window changed", "I/O possible", "Power failure",
    "Bad system call"]

/-- What a person is told about a signal. -/
def signalDescription (signal : Nat) : String :=
  match if signal = 0 then none else signalDescriptions[signal - 1]? with
  | some description => description
  | none =>
    if realTimeSignals.1 ≤ signal then s!"Real-time signal {signal - realTimeSignals.1}"
    else s!"Unknown signal {signal}"

/-- The names by which a shell knows the signals, from number zero on. Sixteen has none, and the
real-time signals are counted from both ends. -/
def shellSignalNames : List String :=
  "0" :: signalNames.set 15 "16" ++ ["32", "33", "RTMIN"] ++
    (List.range 15).map (fun index => s!"RTMIN+{index + 1}") ++
    (List.range 14).map (fun index => s!"RTMAX-{14 - index}") ++ ["RTMAX"]

end EntryTree.Command
