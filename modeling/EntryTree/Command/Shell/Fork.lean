import EntryTree.Command.Shell.State

/-!
# Processes of a shell

A shell runs parts of a script in processes of their own, which begin as copies of it. When a
shell ends, the handler for its end is run. Signals are looked at after every command.
-/

namespace EntryTree.Command

namespace Shell

/-- Runs the lines of a text as if they stood in the script; `last` if nothing comes after them in
the process. A mistake in the text ends the shell. -/
def runText (level : Level) (text : String) (line : Nat) (mode : Mode) : Work Unit := do
  let (lines, misreading) := readScript text line
  for scriptLine in lines do
    level.command { mode with last := mode.last && scriptLine.last } scriptLine.command
  match misreading with
  | some misreading =>
    complainAt misreading.line misreading.message
    throw .fault
  | none => return

/-- Runs the handler for the end of a shell, if there is one; the status that the shell ends
with. -/
def farewell (level : Level) (code : Nat) : StateM Shell ProcessStatus := do
  let shell ← get
  match shell.traps.lookup 0 with
  | none => return .exited (code % 256)
  | some action =>
    set { shell with
      traps := shell.traps.filter (·.1 != 0), status := code, interrupted := some code, loops := 0 }
    match ← (runText level action 1 ⟨false, false⟩).run with
    | .error (.exit code) => return .exited (code % 256)
    | .error (.gone status) => return status
    | .error .fault => return .exited 2
    | _ => return .exited (code % 256)

/-- Runs a shell to its end. -/
def finish (level : Level) (body : Work Unit) : StateM Shell ProcessStatus := do
  match ← body.run with
  | .error (.gone status) => return status
  | .error (.exit code) => farewell level code
  | .error .fault => farewell level 2
  | _ => farewell level (← get).status

/-- Notes that a process which the shell started has ended. -/
def noteEnd : Work Unit :=
  modify fun shell =>
    if (shell.traps.lookup childSignal).isSome then
      let delivery : Delivery := ⟨shell.process, childSignal, shell.machine.clock⟩
      { shell with
        machine := { shell.machine with deliveries := shell.machine.deliveries ++ [delivery] } }
    else shell

/-- Runs a body in a copy of the shell, in a process of its own; how the copy ended. -/
def fork (level : Level) (process : Nat) (prepare : Shell → Shell) (body : Work Unit) :
    Work ProcessStatus := do
  let shell ← get
  let copy :=
    { shell with
      process, jobs := [], traps := shell.traps.filter (·.2.isEmpty), interrupted := none }
  let (status, after) := (finish level body).run (prepare copy)
  set { shell with machine := after.machine }
  noteEnd
  return status

/-- Tells about a process that was ended by a signal, unless it was interrupted or lost its
reader. -/
def tellOf (status : ProcessStatus) : Work Unit := do
  match status with
  | .exited _ => return
  | .signalled signal =>
    if signal != 2 && signal != 13 then report (signalDescription signal ++ "\n")

/-- Looks at the signals that have arrived. -/
def checkSignals (level : Level) : Work Unit := do
  let shell ← get
  let machine := shell.machine
  let isDue (delivery : Delivery) : Bool :=
    delivery.process = shell.process && delivery.time ≤ machine.clock
  if machine.deliveries.any isDue then
    set { shell with
      machine := { machine with deliveries := machine.deliveries.filter (!isDue ·) } }
    for delivery in machine.deliveries.filter isDue do
      let shell ← get
      let handler? : Option String :=
        if delivery.signal = killSignal then none
        else if shell.ignored.contains delivery.signal then some ""
        else shell.traps.lookup delivery.signal
      match handler? with
      | some "" => pure ()
      | some action =>
        modify fun shell => { shell with interrupted := some shell.status }
        runText level action 1 ⟨false, false⟩
        modify fun after => { after with status := shell.status, interrupted := shell.interrupted }
      | none =>
        if Machine.isFatal delivery.signal then throw (.gone (.signalled delivery.signal))

/-- Channels with a descriptor that leads somewhere else. -/
def redirectTo (descriptor : Nat) (channel : Option Channel) (channels : List (Nat × Channel)) :
    List (Nat × Channel) :=
  let others := channels.filter (·.1 != descriptor)
  match channel with
  | some channel => (descriptor, channel) :: others
  | none => others

/-- Runs a body in a copy of the shell and reads what it writes. -/
def capture (level : Level) (body : Work Unit) : Work (String × ProcessStatus) := do
  let sink ← act Machine.number
  let prepare (shell : Shell) : Shell :=
    { shell with channels := redirectTo 1 (some (.sink sink)) shell.channels }
  let status ← fork level (← act Machine.number) prepare body
  let supplies ← act (Machine.collect sink)
  for supply in supplies do
    act (Machine.waitUntil supply.time)
  return (String.join (supplies.map (·.data)), status)

end Shell
end EntryTree.Command
