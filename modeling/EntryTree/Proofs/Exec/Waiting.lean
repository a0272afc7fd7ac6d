import EntryTree.Proofs.Exec.Receiving

/-!
# Waiting for exit codes

Beside the output of an execution somebody waits for its exit code. A wait is polled any number of
times, and a poll looks first at the scope and then at the code. In between, everything else may
happen, so the two looks are events of their own; a poll that nobody interrupts is both at once.

Of all that is done in an execution, what is done about the output makes no difference to the wait.
Only a small part of the state, its `view`, takes part in what is done about the exit code, and the
rest can be left out of a run, as `run_filter` says.
-/

namespace EntryTree

/-- What a wait for an exit code in this state returns, if it can return. -/
def ExitState.outcome? : ExitState → Option (Except Fault Int)
  | .open => none
  | .settled outcome => some outcome
  | .abandoned => some (.error ExecSession.noExitCodeFault)

/-- What a wait returns by an answer, if it returns. -/
def ExecAnswer.outcome? : ExecAnswer → Option (Except Fault Int)
  | .code value => some (.ok value)
  | .failed fault => some (.error fault)
  | _ => none

/-- Whether a request is about the exit code. -/
def ExecRequest.concernsExit : ExecRequest → Bool
  | .resolve _ | .dropExitSender | .wait | .cancel => true
  | _ => false

/-- What there is to know of the exit code. -/
structure ExitView where
  state : ExitState
  /-- Whether the sender of the code is still there. -/
  sender : Bool
  awaited : Bool
  cancelled : Bool

namespace ExecSession

/-- What a session knows of its exit code. -/
def exitView (session : ExecSession) : ExitView :=
  ⟨session.exit, session.exitSender, session.awaited, session.cancelled⟩

/-- The answer to a look at the code that leaves the scope aside. -/
def codeAnswer (session : ExecSession) : ExecAnswer :=
  ({ session with cancelled := false } : ExecSession).exitAnswer

theorem outcome?_codeAnswer (session : ExecSession) :
    session.codeAnswer.outcome? = session.exit.outcome? := by
  simp only [codeAnswer, exitAnswer, Bool.false_eq_true, if_false]
  rcases session.exit with _ | (fault | code) | _ <;> rfl

theorem exitAnswer_eq (session : ExecSession) :
    session.exitAnswer = if session.cancelled then .failed .cancelled else session.codeAnswer := by
  rfl

theorem outcome?_exitAnswer (session : ExecSession) :
    session.exitAnswer.outcome? =
      if session.cancelled then some (.error .cancelled) else session.exit.outcome? := by
  rw [exitAnswer_eq]
  split
  · rfl
  · exact session.outcome?_codeAnswer

theorem exitView_receive (session : ExecSession) :
    session.receive.2.exitView = session.exitView := by
  rcases session.receive_session with ⟨queue, ends, received⟩
  rw [received]
  rfl

theorem exitView_drain (session : ExecSession) (steps : Nat) :
    (session.drain steps).2.exitView = session.exitView := by
  rcases session.drain_session steps with ⟨queue, ends, drained⟩
  rw [drained]
  rfl

/-- What is requested of the output leaves the exit code alone. -/
theorem exitView_step (session : ExecSession) {request : ExecRequest}
    (other : request.concernsExit = false) :
    (session.step request).2.exitView = session.exitView := by
  cases request with
  | send sender chunk =>
      simp only [step]
      split
      · rfl
      · split
        · rfl
        · split <;> rfl
  | cloneSender sender =>
      simp only [step]
      split <;> rfl
  | dropSender sender =>
      simp only [step]
      split <;> rfl
  | senderClosed sender =>
      simp only [step]
      split <;> rfl
  | next =>
      simp only [step]
      split
      · rfl
      · exact session.exitView_receive
  | collect =>
      simp only [step]
      split
      · rfl
      · have drained := session.exitView_drain session.queue.length
        split
        · next chunks after taken =>
            rw [taken] at drained
            exact drained
        · rfl
  | outputClosed =>
      simp only [step]
      split <;> rfl
  | dropOutput =>
      simp only [step]
      split <;> rfl
  | resolve outcome => contradiction
  | dropExitSender => contradiction
  | wait => contradiction
  | cancel => contradiction

/-- What is requested of the exit code hangs on nothing else. -/
theorem step_congr {session other : ExecSession} (same : session.exitView = other.exitView)
    {request : ExecRequest} (concerned : request.concernsExit = true) :
    (session.step request).1 = (other.step request).1 ∧
      (session.step request).2.exitView = (other.step request).2.exitView := by
  rcases session with ⟨_, _, _, _, _, exit, sender, awaited, cancelled⟩
  rcases other with ⟨_, _, _, _, _, exit', sender', awaited', cancelled'⟩
  simp only [exitView, ExitView.mk.injEq] at same
  rcases same with ⟨rfl, rfl, rfl, rfl⟩
  cases request with
  | resolve outcome => cases sender <;> exact ⟨rfl, rfl⟩
  | dropExitSender => cases sender <;> exact ⟨rfl, rfl⟩
  | wait => cases awaited <;> exact ⟨rfl, rfl⟩
  | cancel => exact ⟨rfl, rfl⟩
  | _ => contradiction

end ExecSession

theorem ExecRequest.isOfConsumer_of_concernsExit {request : ExecRequest}
    (concerned : request.concernsExit = true) : request.isOfConsumer = false := by
  cases request <;> first | rfl | contradiction

/-- How far a wait for the exit code has come. -/
inductive WaitPhase
  | unstarted
  /-- It is not being polled. -/
  | waiting
  /-- It is being polled and found the scope active. -/
  | looking
  /-- It has returned or was given up. -/
  | over
  deriving DecidableEq

/-- The phase of a wait after a poll by which it may have returned. -/
def WaitPhase.after (outcome? : Option (Except Fault Int)) : WaitPhase :=
  if outcome?.isSome then .over else .waiting

/-- An exchange, and how far the wait for its exit code has come. -/
structure Execution where
  exchange : Exchange
  phase : WaitPhase := .unstarted

namespace Execution

/-- What can happen next in an execution. -/
inductive Event
  | exchange (event : Exchange.Event)
  /-- The wait begins, which takes the handle to the code. -/
  | await
  /-- The wait is polled and looks at the scope and at the code at once. -/
  | poll
  /-- The wait is polled and looks at the scope only. -/
  | glance
  /-- The wait that is being polled looks at the code. -/
  | look
  /-- The wait is given up. -/
  | leave

namespace Event

/-- Whether an event is about the exit code. -/
def concernsExit : Event → Bool
  | .exchange (.request request) => request.concernsExit
  | .exchange _ => false
  | _ => true

/-- Whether an event cancels the scope. -/
def cancels : Event → Bool
  | .exchange (.request .cancel) => true
  | _ => false

/-- How an event would settle the exit code. -/
def settles? : Event → Option ExitState
  | .exchange (.request (.resolve outcome)) => some (.settled outcome)
  | .exchange (.request .dropExitSender) => some .abandoned
  | _ => none

/-- What the wait returns in an event that is answered in this way, if it returns. To request the
code is to wait for it and to give up after one poll. -/
def outcome? : Event → ExecAnswer → Option (Except Fault Int)
  | .exchange (.request .wait), answer | .poll, answer | .glance, answer | .look, answer =>
    answer.outcome?
  | _, _ => none

end Event

/-- The session of an execution. -/
abbrev session (execution : Execution) : ExecSession :=
  execution.exchange.session

/-- An execution over a new channel. -/
def start (capacity : Nat) (cancelled : Bool) : Execution :=
  ⟨.start capacity cancelled, .unstarted⟩

/-- Lets an event happen. What cannot happen now is answered as gone. -/
def step (execution : Execution) : Event → ExecAnswer × Execution
  | .exchange event =>
    let (answer, exchange) := execution.exchange.step event
    (answer, { execution with exchange })
  | .await =>
    if execution.session.awaited then (.gone, execution)
    else
      let session := { execution.session with awaited := true }
      (.done, ⟨{ execution.exchange with session }, .waiting⟩)
  | .poll =>
    if execution.phase = .waiting then
      let answer := execution.session.exitAnswer
      (answer, { execution with phase := .after answer.outcome? })
    else (.gone, execution)
  | .glance =>
    if execution.phase = .waiting then
      if execution.session.cancelled then (.failed .cancelled, { execution with phase := .over })
      else (.pending, { execution with phase := .looking })
    else (.gone, execution)
  | .look =>
    if execution.phase = .looking then
      let answer := execution.session.codeAnswer
      (answer, { execution with phase := .after answer.outcome? })
    else (.gone, execution)
  | .leave =>
    if execution.phase = .waiting then (.done, { execution with phase := .over })
    else (.gone, execution)

/-- The events of an execution in their order, with the answers to them. -/
abbrev History := List (Event × ExecAnswer)

/-- Lets events happen one after another. -/
def run (execution : Execution) : List Event → History × Execution
  | [] => ([], execution)
  | event :: events =>
    let (answer, execution) := execution.step event
    let (history, execution) := execution.run events
    ((event, answer) :: history, execution)

/-- What the wait would return in an event that happens now. -/
def returns (execution : Execution) (event : Event) : Option (Except Fault Int) :=
  event.outcome? (execution.step event).1

/-- What the wait returned. -/
def returned (history : History) : List (Except Fault Int) :=
  history.flatMap fun (event, answer) => (event.outcome? answer).toList

/-- The exit code as the first event that settles it leaves it. -/
def settlement (past : List Event) : ExitState :=
  (past.findSome? Event.settles?).getD .open

variable {execution other : Execution} {event : Event}

@[simp]
theorem session_mk (exchange : Exchange) (phase : WaitPhase) :
    session ⟨exchange, phase⟩ = exchange.session :=
  rfl

theorem fst_run_cons (execution : Execution) (event : Event) (events : List Event) :
    (execution.run (event :: events)).1 =
      (event, (execution.step event).1) :: ((execution.step event).2.run events).1 :=
  rfl

theorem snd_run_cons (execution : Execution) (event : Event) (events : List Event) :
    (execution.run (event :: events)).2 = ((execution.step event).2.run events).2 :=
  rfl

theorem returned_cons (event : Event) (answer : ExecAnswer) (history : History) :
    returned ((event, answer) :: history) = (event.outcome? answer).toList ++ returned history :=
  rfl

theorem returned_run_cons (execution : Execution) (event : Event) (events : List Event) :
    returned (execution.run (event :: events)).1 =
      (execution.returns event).toList ++ returned ((execution.step event).2.run events).1 :=
  rfl

/-- A poll that nobody interrupts is its two looks with nothing in between. -/
theorem step_poll (waiting : execution.phase = .waiting) :
    execution.step .poll =
      if execution.session.cancelled then execution.step .glance
      else (execution.step .glance).2.step .look := by
  simp only [step, waiting, if_true, ExecSession.exitAnswer_eq]
  split <;> rfl

/-- To request the code is to begin a wait and to poll it once. -/
theorem step_wait (free : execution.session.awaited = false) :
    (execution.step (.exchange (.request .wait))).1 =
      ((execution.step .await).2.step .poll).1 := by
  simp only [step, Exchange.step, ExecRequest.isOfConsumer, ExecSession.step, free, Bool.and_false,
    Bool.false_eq_true, if_false, if_true]
  rfl

/-! ## The exit code apart from the output -/

/-- What there is to know of the exit code and of the wait for it. -/
def view (execution : Execution) : ExitView × WaitPhase :=
  (execution.session.exitView, execution.phase)

/-- What is done about the output leaves the exit code and the wait alone. -/
theorem view_step_of_output (aside : event.concernsExit = false) :
    (execution.step event).2.view = execution.view := by
  cases event with
  | exchange event =>
      cases event with
      | request request =>
          simp only [step, Exchange.step]
          split
          · rfl
          · exact Prod.ext (execution.session.exitView_step aside) rfl
      | poll =>
          rcases execution with ⟨⟨session, held⟩, phase⟩
          have polled : session.poll.2.exitView = session.exitView := by
            rcases session.poll_cases with ⟨polled, _⟩ | ⟨_, _, _, polled⟩ | ⟨_, _, polled⟩
            all_goals exact congrArg (fun polled => polled.2.exitView) polled
          simp only [step, Exchange.step]
          split
          · rfl
          · split
            · rfl
            · exact Prod.ext polled rfl
      | settle =>
          rcases execution with ⟨⟨session, _ | received⟩, phase⟩
          · rfl
          · have settled : (session.settle received).exitView = session.exitView := by
              unfold ExecSession.settle
              split <;> rfl
            exact Prod.ext settled rfl
  | await => contradiction
  | poll => contradiction
  | glance => contradiction
  | look => contradiction
  | leave => contradiction

theorem outcome?_of_output (aside : event.concernsExit = false) (answer : ExecAnswer) :
    event.outcome? answer = none := by
  unfold Event.outcome?
  split
  · contradiction
  · contradiction
  · contradiction
  · contradiction
  · rfl

theorem settles?_of_output (aside : event.concernsExit = false) : event.settles? = none := by
  unfold Event.settles?
  split
  · contradiction
  · contradiction
  · rfl

theorem cancels_of_output (aside : event.concernsExit = false) : event.cancels = false := by
  unfold Event.cancels
  split
  · contradiction
  · rfl

/-- The output of an exchange has no part in what is requested of the exit code. -/
theorem step_request (execution : Execution) {request : ExecRequest}
    (concerned : request.concernsExit = true) :
    execution.step (.exchange (.request request)) =
      ((execution.session.step request).1,
        ⟨{ execution.exchange with session := (execution.session.step request).2 },
          execution.phase⟩) := by
  simp only [step, Exchange.step, ExecRequest.isOfConsumer_of_concernsExit concerned,
    Bool.and_false, Bool.false_eq_true, if_false]

/-- What is done about the exit code hangs on nothing else. -/
theorem step_congr (same : execution.view = other.view) (concerned : event.concernsExit = true) :
    (execution.step event).1 = (other.step event).1 ∧
      (execution.step event).2.view = (other.step event).2.view := by
  rcases execution with ⟨⟨session, held⟩, phase⟩
  rcases other with ⟨⟨session', held'⟩, phase'⟩
  rcases Prod.mk.inj same with ⟨sessions, rfl⟩
  cases event with
  | exchange event =>
      cases event with
      | request request =>
          rw [step_request _ concerned, step_request _ concerned]
          rcases ExecSession.step_congr sessions concerned with ⟨answer, view⟩
          exact ⟨answer, Prod.ext view rfl⟩
      | poll => contradiction
      | settle => contradiction
  | _ =>
      -- The other events are those of the wait, and look at the fields of the view only.
      rcases session with ⟨_, _, _, _, _, exit, sender, awaited, cancelled⟩
      rcases session' with ⟨_, _, _, _, _, exit', sender', awaited', cancelled'⟩
      simp only [ExecSession.exitView, ExitView.mk.injEq] at sessions
      rcases sessions with ⟨rfl, rfl, rfl, rfl⟩
      cases awaited <;> cases cancelled <;> cases phase <;> exact ⟨rfl, rfl⟩

/-- Without what was done about the output, a run goes on about the exit code as it did. -/
theorem run_filter (same : execution.view = other.view) (events : List Event) :
    (execution.run events).1.filter (fun happened => happened.1.concernsExit) =
      (other.run (events.filter Event.concernsExit)).1 := by
  induction events generalizing execution other with
  | nil => rfl
  | cons event events ih =>
      rw [fst_run_cons]
      by_cases concerned : event.concernsExit = true
      · rcases step_congr same concerned with ⟨answer, view⟩
        simp only [List.filter_cons, concerned, if_true, fst_run_cons, answer, ih view]
      · have aside : event.concernsExit = false := by simpa using concerned
        simp only [List.filter_cons, aside, Bool.false_eq_true, if_false]
        exact ih ((view_step_of_output aside).trans same)

theorem returned_filter (history : History) :
    returned (history.filter fun happened => happened.1.concernsExit) = returned history := by
  induction history with
  | nil => rfl
  | cons happened history ih =>
      rcases happened with ⟨event, answer⟩
      rw [returned_cons, ← ih]
      by_cases concerned : event.concernsExit = true
      · simp only [List.filter_cons, concerned, if_true, returned_cons]
      · have aside : event.concernsExit = false := by simpa using concerned
        simp only [List.filter_cons, aside, Bool.false_eq_true, if_false,
          outcome?_of_output aside, Option.toList_none, List.nil_append]

end Execution
end EntryTree
