import EntryTree.Exec.Session

/-!
# Exchanges

Any number of producers and one consumer share a session, and what they do is interleaved in any
way. A request is answered at once. The consumer may also ask for the next chunk in two steps: it
polls the session, and acts upon what it received only later, so that the others come in between.
While it is about to act, the output is lent to this call and no other request can reach it. A send
or a call of the consumer that has to wait has changed nothing, and goes on waiting by being made
again.

What a request does to the output is said once, by `ExecSession.step_cases`.
-/

namespace EntryTree

namespace ExecAnswer

/-- The chunks that the consumer gets by an answer. -/
def received : ExecAnswer → List Chunk
  | .chunk next => [next]
  | .chunks all => all
  | _ => []

/-- Whether an answer tells the consumer that the output has ended. -/
def endsOutput : ExecAnswer → Bool
  | .chunk next => next.isError
  | .finished | .chunks _ => true
  | _ => false

end ExecAnswer

namespace ExecRequest

/-- The chunk that a request sent, if it was accepted. -/
def accepted : ExecRequest → ExecAnswer → List Chunk
  | .send _ chunk, .done => [chunk]
  | _, _ => []

/-- Whether a request is one of the consumer of the output. -/
def isOfConsumer : ExecRequest → Bool
  | .next | .collect | .outputClosed | .dropOutput => true
  | _ => false

end ExecRequest

namespace ExecSession

/-- Nothing waits to be received, and nobody is there who could send more. -/
def Exhausted (session : ExecSession) : Prop :=
  session.queue = [] ∧ session.senders.any id = false

/-- A request was answered and the output is as it was, except that senders may have come or gone,
the scope may be cancelled now, and the consumer may have left. -/
structure Aside (before : ExecSession) (request : ExecRequest) (answer : ExecAnswer)
    (after : ExecSession) : Prop where
  accepted : request.accepted answer = []
  received : answer.received = []
  goesOn : answer.endsOutput = false
  queue : after.queue = before.queue
  capacity : after.capacity = before.capacity
  closed : after.closed = before.closed
  left : before.consumed = true → after.consumed = true
  staying : request.isOfConsumer = false → after.consumed = before.consumed
  cancelled : after.cancelled = true ↔ before.cancelled = true ∨ request = .cancel
  silent : before.senders.any id = false → after.senders.any id = false

theorem Aside.unchanged {session : ExecSession} {request : ExecRequest} {answer : ExecAnswer}
    (accepted : request.accepted answer = []) (received : answer.received = [])
    (goesOn : answer.endsOutput = false) (other : request ≠ .cancel) :
    Aside session request answer session :=
  ⟨accepted, received, goesOn, rfl, rfl, rfl, id, fun _ => rfl, by simp [other], id⟩

section Settling

variable (session : ExecSession) (received : Received)

@[simp]
theorem queue_settle : (session.settle received).queue = session.queue := by
  unfold settle
  split <;> rfl

@[simp]
theorem capacity_settle : (session.settle received).capacity = session.capacity := by
  unfold settle
  split <;> rfl

@[simp]
theorem senders_settle : (session.settle received).senders = session.senders := by
  unfold settle
  split <;> rfl

@[simp]
theorem consumed_settle : (session.settle received).consumed = session.consumed := by
  unfold settle
  split <;> rfl

@[simp]
theorem cancelled_settle : (session.settle received).cancelled = session.cancelled := by
  unfold settle
  split <;> rfl

@[simp]
theorem closed_settle :
    (session.settle received).closed = (session.closed || received.isLast) := by
  unfold settle
  split <;> simp_all [close]

end Settling

variable {session : ExecSession} {sender : Nat}

theorem any_senders_of_hasSender (has : session.hasSender sender = true) :
    session.senders.any id = true := by
  rw [hasSender] at has
  rw [List.any_eq_true]
  cases found : session.senders[sender]? with
  | none => simp [found] at has
  | some present =>
      have isPresent : present = true := by simpa [found] using has
      exact ⟨present, List.mem_of_getElem? found, isPresent⟩

theorem exitAnswer_idle (session : ExecSession) :
    session.exitAnswer.received = [] ∧ session.exitAnswer.endsOutput = false := by
  rw [exitAnswer]
  split
  · exact ⟨rfl, rfl⟩
  · split <;> exact ⟨rfl, rfl⟩

/-- A request adds a chunk to the queue, receives the next chunk or all of them, or it leaves the
output as it is. -/
theorem step_cases (session : ExecSession) (request : ExecRequest) :
    (∃ sender chunk, request = .send sender chunk ∧ session.hasSender sender = true ∧
      session.rejects = false ∧ session.queue.length < session.capacity ∧
      session.step request = (.done, { session with queue := session.queue ++ [chunk] })) ∨
    (request = .next ∧ session.consumed = false ∧
      session.step request = (session.receive.1.answer, session.receive.2)) ∨
    (∃ chunks after, request = .collect ∧ session.consumed = false ∧
      session.drain session.queue.length = (some chunks, after) ∧
      session.step request = (.chunks chunks, { after with consumed := true })) ∨
    session.Aside request (session.step request).1 (session.step request).2 := by
  cases request with
  | send sender chunk =>
      by_cases has : session.hasSender sender = true
      · by_cases rejects : session.rejects = true
        · right; right; right
          simpa [step, has, rejects] using Aside.unchanged rfl rfl rfl (by simp)
        · by_cases full : session.capacity ≤ session.queue.length
          · right; right; right
            simpa [step, has, rejects, full] using Aside.unchanged rfl rfl rfl (by simp)
          · left
            refine ⟨sender, chunk, rfl, has, by simpa using rejects, Nat.not_le.mp full, ?_⟩
            simp [step, has, rejects, full]
      · right; right; right
        simpa [step, has] using Aside.unchanged rfl rfl rfl (by simp)
  | next =>
      by_cases consumed : session.consumed = true
      · right; right; right
        simpa [step, consumed] using Aside.unchanged rfl rfl rfl (by simp)
      · right; left
        exact ⟨rfl, by simpa using consumed, by simp [step, consumed]⟩
  | collect =>
      right; right
      by_cases consumed : session.consumed = true
      · right
        simpa [step, consumed] using Aside.unchanged rfl rfl rfl (by simp)
      · rcases drained : session.drain session.queue.length with ⟨_ | chunks, after⟩
        · right
          simpa [step, consumed, drained] using ⟨rfl, rfl, rfl, rfl, rfl, rfl, fun _ => rfl,
            by simp [ExecRequest.isOfConsumer], by simp, id⟩
        · left
          exact ⟨chunks, after, rfl, by simpa using consumed, rfl,
            by simp [step, consumed, drained]⟩
  | cloneSender sender =>
      right; right; right
      by_cases has : session.hasSender sender = true
      · have present := any_senders_of_hasSender has
        simpa [step, has] using
          ⟨rfl, rfl, rfl, rfl, rfl, rfl, id, fun _ => rfl, by simp, by simp [present]⟩
      · simpa [step, has] using Aside.unchanged rfl rfl rfl (by simp)
  | dropSender sender =>
      right; right; right
      by_cases has : session.hasSender sender = true
      · have present := any_senders_of_hasSender has
        simpa [step, has] using
          ⟨rfl, rfl, rfl, rfl, rfl, rfl, id, fun _ => rfl, by simp, by simp [present]⟩
      · simpa [step, has] using Aside.unchanged rfl rfl rfl (by simp)
  | senderClosed sender =>
      right; right; right
      by_cases has : session.hasSender sender = true <;>
        simpa [step, has] using Aside.unchanged rfl rfl rfl (by simp)
  | resolve outcome =>
      right; right; right
      by_cases has : session.exitSender = true <;>
        simpa [step, has] using ⟨rfl, rfl, rfl, rfl, rfl, rfl, id, fun _ => rfl, by simp, id⟩
  | dropExitSender =>
      right; right; right
      by_cases has : session.exitSender = true <;>
        simpa [step, has] using ⟨rfl, rfl, rfl, rfl, rfl, rfl, id, fun _ => rfl, by simp, id⟩
  | outputClosed =>
      right; right; right
      by_cases consumed : session.consumed = true <;>
        simpa [step, consumed] using Aside.unchanged rfl rfl rfl (by simp)
  | dropOutput =>
      right; right; right
      by_cases consumed : session.consumed = true
      · simpa [step, consumed] using Aside.unchanged rfl rfl rfl (by simp)
      · simpa [step, consumed] using ⟨rfl, rfl, rfl, rfl, rfl, rfl, fun _ => rfl,
          by simp [ExecRequest.isOfConsumer], by simp, id⟩
  | wait =>
      right; right; right
      by_cases awaited : session.awaited = true
      · simpa [step, awaited] using Aside.unchanged rfl rfl rfl (by simp)
      · rcases exitAnswer_idle session with ⟨received, goesOn⟩
        simpa [step, awaited] using
          ⟨rfl, received, goesOn, rfl, rfl, rfl, id, fun _ => rfl, by simp, id⟩
  | cancel =>
      right; right; right
      exact ⟨rfl, rfl, rfl, rfl, rfl, rfl, id, fun _ => rfl, by simp [step], id⟩

end ExecSession

/-- A session, and what its consumer received and is about to act upon. -/
structure Exchange where
  session : ExecSession
  held : Option ExecSession.Received := none

namespace Exchange

/-- What can happen next in an exchange. -/
inductive Event
  | request (request : ExecRequest)
  /-- The consumer asks for the next chunk and looks what there is. -/
  | poll
  /-- The consumer acts upon what it found and returns it. -/
  | settle

/-- The chunk that was sent in an event, if it was accepted. -/
def Event.accepted : Event → ExecAnswer → List Chunk
  | .request made, answer => made.accepted answer
  | _, _ => []

/-- An exchange over a new channel. -/
def start (capacity : Nat) (cancelled : Bool) : Exchange :=
  ⟨.channel capacity cancelled, none⟩

/-- Lets an event happen. What cannot happen now is answered as gone. -/
def step (exchange : Exchange) : Event → ExecAnswer × Exchange
  | .request request =>
    if exchange.held.isSome && request.isOfConsumer then (.gone, exchange)
    else
      let (answer, session) := exchange.session.step request
      (answer, { exchange with session })
  | .poll =>
    if exchange.held.isSome || exchange.session.consumed then (.gone, exchange)
    else if exchange.session.closed then (.finished, exchange)
    else
      let (received, session) := exchange.session.poll
      (.pending, ⟨session, some received⟩)
  | .settle =>
    match exchange.held with
    | none => (.gone, exchange)
    | some received => (received.answer, ⟨exchange.session.settle received, none⟩)

/-- The events of an exchange in their order, with the answers to them. -/
abbrev History := List (Event × ExecAnswer)

/-- Lets events happen one after another. -/
def run (exchange : Exchange) : List Event → History × Exchange
  | [] => ([], exchange)
  | event :: events =>
    let (answer, exchange) := exchange.step event
    let (history, exchange) := exchange.run events
    ((event, answer) :: history, exchange)

/-- The chunks that were sent and accepted, in the order in which they were. -/
def accepted (history : History) : List Chunk :=
  history.flatMap fun (event, answer) => event.accepted answer

/-- The chunks that the consumer got, in the order in which it did. -/
def returned (history : History) : List Chunk :=
  history.flatMap fun (_, answer) => answer.received

/-- Whether the consumer was told that the output has ended. -/
def hasEnded (history : History) : Bool :=
  history.any fun (_, answer) => answer.endsOutput

/-- The chunk that the consumer is about to return. -/
def taken (exchange : Exchange) : List Chunk :=
  match exchange.held with
  | some (.chunk next) => [next]
  | _ => []

/-- Asking for the next chunk at once is asking in two steps with nothing in between. -/
theorem step_next {exchange : Exchange} (idle : exchange.held = none)
    (staying : exchange.session.consumed = false) (goesOn : exchange.session.closed = false) :
    exchange.step (.request .next) = (exchange.step .poll).2.step .settle := by
  simp [step, idle, staying, goesOn, ExecSession.step, ExecSession.receive]

end Exchange
end EntryTree
