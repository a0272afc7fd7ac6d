import EntryTree.Fault

/-!
# The protocol of executions

A command that was launched is observed through two independent halves. Its output is a bounded
queue of chunks, filled by any number of senders and drained by one consumer; it ends when the
senders are gone, after a chunk that carries a fault, or when the scope is cancelled, and nothing
comes after its end. Its exit code is settled at most once.

A session holds both halves and what is left of the handles to them. A request that has to wait is
given up at once and answered as pending; a request through a handle that was used up or dropped
is answered as gone.
-/

namespace EntryTree

/-- The stream that output came from. -/
inductive OutputStream
  | stdout
  | stderr
  deriving DecidableEq, Repr

/-- A piece of output: data, or the fault that ends the output. -/
structure Chunk where
  stream : OutputStream
  payload : Except Fault (List UInt8)

/-- Whether a chunk ends the output. -/
def Chunk.isError (chunk : Chunk) : Bool :=
  match chunk.payload with
  | .ok _ => false
  | .error _ => true

/-- Whether the exit code is known. -/
inductive ExitState
  | open
  | settled (outcome : Except Fault Int)
  /-- The sender was dropped before it settled the code. -/
  | abandoned

/-- An execution as seen by the holders of its handles. -/
structure ExecSession where
  /-- How many chunks may wait. -/
  capacity : Nat
  /-- The chunks that wait, oldest first. -/
  queue : List Chunk
  /-- For each sender of output, whether it is still there. -/
  senders : List Bool
  /-- Whether the output has ended for its consumer. -/
  closed : Bool
  /-- Whether there is still a consumer of the output. -/
  consumed : Bool
  exit : ExitState
  /-- Whether the sender of the exit code is still there. -/
  exitSender : Bool
  /-- Whether the exit code was waited for. -/
  awaited : Bool
  cancelled : Bool

/-- A request to a session. Senders are numbered in the order in which they were made. -/
inductive ExecRequest
  | send (sender : Nat) (chunk : Chunk)
  | cloneSender (sender : Nat)
  | dropSender (sender : Nat)
  | senderClosed (sender : Nat)
  | resolve (outcome : Except Fault Int)
  | dropExitSender
  | next
  | collect
  | outputClosed
  | dropOutput
  | wait
  | cancel

/-- The answer of a session. -/
inductive ExecAnswer
  | done
  | pending
  | gone
  | failed (fault : Fault)
  | sender (index : Nat)
  | flag (value : Bool)
  | chunk (chunk : Chunk)
  /-- The output has ended. -/
  | finished
  | chunks (chunks : List Chunk)
  | code (value : Int)

namespace ExecSession

/-- The fault of sending output that nobody will receive. -/
def outputClosedFault : Fault :=
  .exec "exec output is closed"

/-- The fault of an exit code that will never be settled. -/
def noExitCodeFault : Fault :=
  .exec "exec finished without reporting an exit code"

/-- A session with one sender of output and one of the exit code. A queue holds a chunk at
least. -/
def channel (capacity : Nat) (cancelled : Bool) : ExecSession where
  capacity := max capacity 1
  queue := []
  senders := [true]
  closed := false
  consumed := false
  exit := .open
  exitSender := true
  awaited := false
  cancelled := cancelled

/-- The session of a command that has already finished. -/
def completed (output : List UInt8) (code : Int) (cancelled : Bool) : ExecSession where
  capacity := 1
  queue := if output.isEmpty then [] else [⟨.stdout, .ok output⟩]
  senders := []
  closed := false
  consumed := false
  exit := .settled (.ok code)
  exitSender := false
  awaited := false
  cancelled := cancelled

/-- Whether a sender is still there. -/
def hasSender (session : ExecSession) (sender : Nat) : Bool :=
  session.senders[sender]?.getD false

/-- Whether output can no longer be received. -/
def rejects (session : ExecSession) : Bool :=
  session.closed || session.consumed

/-- Ends the output for its consumer. -/
def close (session : ExecSession) : ExecSession :=
  { session with closed := true }

/-- What the consumer gets next: a chunk, nothing any more, or nothing yet. -/
inductive Received
  | chunk (chunk : Chunk)
  | finished
  | pending

/-- Whether nothing can be received any more after this. -/
def Received.isLast : Received → Bool
  | .chunk next => next.isError
  | .finished => true
  | .pending => false

/-- The answer to a consumer that received this. -/
def Received.answer : Received → ExecAnswer
  | .chunk next => .chunk next
  | .finished => .finished
  | .pending => .pending

/-- Looks for the next chunk, first at the scope and then at the queue. -/
def poll (session : ExecSession) : Received × ExecSession :=
  if session.cancelled then (.finished, session)
  else
    match session.queue with
    | chunk :: queue => (.chunk chunk, { session with queue })
    | [] => if session.senders.any id then (.pending, session) else (.finished, session)

/-- Acts upon what was received: the output ends after the last of it. -/
def settle (session : ExecSession) (received : Received) : ExecSession :=
  if received.isLast then session.close else session

/-- Receives the next chunk. -/
def receive (session : ExecSession) : Received × ExecSession :=
  if session.closed then (.finished, session)
  else
    let (received, session) := session.poll
    (received, session.settle received)

/-- Receives chunks until the output has ended; `none` if that would have to wait. There are no
more chunks to receive than wait in the queue. -/
def drain : Nat → ExecSession → Option (List Chunk) × ExecSession
  | 0, session =>
    match session.receive with
    | (.finished, session) => (some [], session)
    | (_, session) => (none, session)
  | steps + 1, session =>
    match session.receive with
    | (.finished, session) => (some [], session)
    | (.pending, session) => (none, session)
    | (.chunk chunk, session) =>
      match drain steps session with
      | (some chunks, session) => (some (chunk :: chunks), session)
      | (none, session) => (none, session)

/-- What waiting for the exit code brings. -/
def exitAnswer (session : ExecSession) : ExecAnswer :=
  if session.cancelled then .failed .cancelled
  else
    match session.exit with
    | .open => .pending
    | .settled (.ok code) => .code code
    | .settled (.error fault) => .failed fault
    | .abandoned => .failed noExitCodeFault

/-- Answers a request. -/
def step (session : ExecSession) : ExecRequest → ExecAnswer × ExecSession
  | .send sender chunk =>
    if !session.hasSender sender then (.gone, session)
    else if session.rejects then (.failed outputClosedFault, session)
    else if session.capacity ≤ session.queue.length then (.pending, session)
    else (.done, { session with queue := session.queue ++ [chunk] })
  | .cloneSender sender =>
    if session.hasSender sender then
      (.sender session.senders.length, { session with senders := session.senders ++ [true] })
    else (.gone, session)
  | .dropSender sender =>
    if session.hasSender sender then
      (.done, { session with senders := session.senders.set sender false })
    else (.gone, session)
  | .senderClosed sender =>
    if session.hasSender sender then (.flag session.rejects, session) else (.gone, session)
  | .resolve outcome =>
    if session.exitSender then
      (.done, { session with exit := .settled outcome, exitSender := false })
    else (.gone, session)
  | .dropExitSender =>
    if session.exitSender then
      (.done, { session with exit := .abandoned, exitSender := false })
    else (.gone, session)
  | .next =>
    if session.consumed then (.gone, session)
    else
      let (received, session) := session.receive
      (received.answer, session)
  | .collect =>
    if session.consumed then (.gone, session)
    else
      match session.drain session.queue.length with
      | (some chunks, session) => (.chunks chunks, { session with consumed := true })
      | (none, _) => (.pending, { session with consumed := true })
  | .outputClosed =>
    if session.consumed then (.gone, session) else (.flag session.closed, session)
  | .dropOutput =>
    if session.consumed then (.gone, session) else (.done, { session with consumed := true })
  | .wait =>
    if session.awaited then (.gone, session)
    else (session.exitAnswer, { session with awaited := true })
  | .cancel => (.done, { session with cancelled := true })

end ExecSession
end EntryTree
