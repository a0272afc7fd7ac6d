import EntryTree.Command.Levels

/-!
# Launching commands

A launched command feeds an execution session: what it writes is sent as it is written, its status
settles the exit code, and the senders are dropped when it has ended. The observer receives every
chunk as it comes and may cancel the scope after the first one.
-/

namespace EntryTree.Command

/-- When the scope of a launch is cancelled. -/
inductive Cancellation
  | never
  | before
  | afterFirstChunk
  deriving DecidableEq, Repr

/-- What an observer saw of a launched command. -/
structure Observation where
  chunks : List Chunk
  exit : ExecAnswer
  closed : Bool

/-- How many chunks may wait in the queue of a launched command. -/
def queueCapacity : Nat := 64

/-- How many bytes of a stream are received at once. -/
def receivedAtOnce : Nat := 8192

/-- The variables of a launched command. -/
def launchEnvironment : List (String × String) :=
  [("PATH", "/usr/bin:/bin")]

/-- What a process is started with: the command, which must have a path, and whether its standard
input has data. -/
def firstInvocation (name : String) (arguments : List String) (path : String) (fed : Bool) :
    Invocation where
  name
  path
  arguments
  environment := launchEnvironment
  directory := "/"
  channels :=
    [(0, if fed then .source 0 else .null), (1, .sink Machine.standardOutput),
      (2, .sink Machine.standardError)]
  process := Machine.firstProcess - 1
  ignored := []

/-- Splits data into parts that are received at once, within a number of steps. -/
def partsWithin : Nat → List UInt8 → List (List UInt8)
  | 0, _ => []
  | steps + 1, data =>
    if data.isEmpty then []
    else data.take receivedAtOnce :: partsWithin steps (data.drop receivedAtOnce)

/-- The stream that a group of emissions was written to. -/
def streamOf (group : List Emission) : OutputStream :=
  if group.any (·.sink = Machine.standardOutput) then .stdout else .stderr

/-- What is received of emissions that were written to one stream without a pause. -/
def writesOfGroup (group : List Emission) : List Write :=
  let data := bytesOf (String.join (group.map Emission.data))
  (partsWithin (data.length + 1) data).map (⟨streamOf group, ·⟩)

/-- Whether two emissions that follow one another are received together. -/
def joins (first second : Emission) : Bool :=
  first.sink = second.sink && first.time = second.time

/-- What is received of the emissions of a process, which are in the order of time. -/
def writesOf (emissions : List Emission) : List Write :=
  (emissions.splitBy joins).flatMap writesOfGroup

/-- What can be received of the two streams of the first process, in the order of time. -/
def Machine.timeline (machine : Machine) : List Emission :=
  let sinks := [standardOutput, standardError]
  (machine.emissions.filter (sinks.contains ·.sink)).reverse.mergeSort fun first second =>
    first.time ≤ second.time

/-- The number by which the system knows why a program cannot be started. -/
def errorNumber : LaunchFault → Nat
  | .missing => 2
  | .misplaced => 20
  | .denied => 13

/-- Starts a command with the data for its standard input; without data the input is empty. -/
def start (command : List String) (input : Option (List UInt8)) : Except Fault Run :=
  match command.map encode with
  | [] => .error (.io "No such file or directory (os error 2)")
  | name :: arguments =>
    let machine := Machine.initial (ofBytes (input.getD []))
    let searchPath := (launchEnvironment.lookup "PATH").getD ""
    if (name :: arguments).any (·.contains '\x00') then
      .error (.io "nul byte found in provided data")
    else if name.isEmpty then .error (.io "No such file or directory (os error 2)")
    else
      match machine.findProgram "/" searchPath name with
      | .error fault => .error (.io s!"{fault.reason} (os error {errorNumber fault})")
      | .ok path =>
        let invocation := firstInvocation name arguments path input.isSome
        let (status, machine) := ((levelAt systemDepth).launch invocation).run machine
        .ok ⟨writesOf machine.timeline, status⟩

/-- Receives what is written until the output ends; the chunks and the session afterwards. -/
def observeWrites (cancellation : Cancellation) (session : ExecSession) :
    List Write → List Chunk × ExecSession
  | [] => ([], session)
  | write :: writes =>
    let (_, session) := session.step (.send 0 ⟨write.stream, .ok write.data⟩)
    match session.step .next with
    | (.chunk chunk, session) =>
      let session :=
        if cancellation = .afterFirstChunk then (session.step .cancel).2 else session
      let (chunks, session) := observeWrites cancellation session writes
      (chunk :: chunks, session)
    | (_, session) => ([], session)

/-- Observes a run to its end. -/
def observe (run : Run) (cancellation : Cancellation) : Observation :=
  let session := ExecSession.channel queueCapacity false
  let writes := run.writes.filter fun write => !write.data.isEmpty
  let (chunks, session) := observeWrites cancellation session writes
  let (_, session) := session.step (.resolve run.status.exitCode)
  let (_, session) := session.step (.dropSender 0)
  let (_, session) := session.step .next
  let (exit, session) := session.step .wait
  ⟨chunks, exit, session.closed⟩

/-- Launches a command and observes it to its end. -/
def launch (command : List String) (input : Option (List UInt8)) (cancellation : Cancellation) :
    Except Fault Observation :=
  if cancellation = .before then .error .cancelled
  else (start command input).map (observe · cancellation)

namespace Observation

/-- All data that was received of a stream. -/
def received (observation : Observation) (stream : OutputStream) : List UInt8 :=
  observation.chunks.flatMap fun chunk =>
    match chunk.payload with
    | .ok data => if chunk.stream = stream then data else []
    | .error _ => []

end Observation
end EntryTree.Command
