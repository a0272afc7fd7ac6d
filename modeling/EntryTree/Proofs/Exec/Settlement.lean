import EntryTree.Proofs.Exec.Waiting

/-!
# Settlement of exit codes

Whatever is done in an execution, the first event that settles the exit code settles it for good,
and the wait for it returns at most once. What it returns is decided by its last poll: in a scope
that was cancelled before, that the scope is cancelled, and otherwise the code. The main statement
is `exit_code_settled_once`.

How an event moves a wait is said once, by `Moves`. What a whole run keeps follows from what each
move keeps.
-/

namespace EntryTree

namespace Execution

variable {execution other : Execution} {event : Event}

/-! ## The course of a wait -/

/-- Only an event that cancels the scope changes it, and only the first event that settles the code
has a sender to do so. -/
theorem session_step (execution : Execution) (event : Event) :
    (execution.step event).2.session.cancelled =
      (execution.session.cancelled || event.cancels) ∧
    (execution.step event).2.session.exitSender =
      (execution.session.exitSender && event.settles?.isNone) ∧
    (execution.step event).2.session.exit =
      if execution.session.exitSender then event.settles?.getD execution.session.exit
      else execution.session.exit := by
  by_cases concerned : event.concernsExit = true
  · cases event with
    | exchange event =>
        cases event with
        | request request =>
            rw [step_request _ concerned]
            cases request with
            | resolve outcome =>
                by_cases has : execution.session.exitSender = true <;>
                  simp [ExecSession.step, has, Event.cancels, Event.settles?]
            | dropExitSender =>
                by_cases has : execution.session.exitSender = true <;>
                  simp [ExecSession.step, has, Event.cancels, Event.settles?]
            | wait =>
                by_cases awaited : execution.session.awaited = true <;>
                  simp [ExecSession.step, awaited, Event.cancels, Event.settles?]
            | cancel => simp [ExecSession.step, Event.cancels, Event.settles?]
            | _ => contradiction
        | poll => contradiction
        | settle => contradiction
    | await =>
        by_cases awaited : execution.session.awaited = true <;>
          simp [step, awaited, Event.cancels, Event.settles?]
    | poll =>
        by_cases waiting : execution.phase = .waiting <;>
          simp [step, waiting, Event.cancels, Event.settles?]
    | glance =>
        by_cases waiting : execution.phase = .waiting <;>
          by_cases cancelled : execution.session.cancelled = true <;>
            simp [step, waiting, cancelled, Event.cancels, Event.settles?]
    | look =>
        by_cases looking : execution.phase = .looking <;>
          simp [step, looking, Event.cancels, Event.settles?]
    | leave =>
        by_cases waiting : execution.phase = .waiting <;>
          simp [step, waiting, Event.cancels, Event.settles?]
  · have aside : event.concernsExit = false := by simpa using concerned
    have same : (execution.step event).2.session.exitView = execution.session.exitView :=
      congrArg Prod.fst (view_step_of_output aside)
    rcases ExitView.mk.inj same with ⟨exit, sender, _, cancelled⟩
    rw [exit, sender, cancelled, cancels_of_output aside, settles?_of_output aside]
    simp

/-- What is known of a session from what has happened in its execution. -/
structure Recorded (cancelled : Bool) (past : List Event) (session : ExecSession) : Prop where
  exit : session.exit = settlement past
  sender : session.exitSender = (past.findSome? Event.settles?).isNone
  cancelled : session.cancelled = (cancelled || past.any Event.cancels)

variable {cancelled : Bool} {past : List Event} {outcome : Except Fault Int}

theorem settlement_append (past rest : List Event) :
    settlement (past ++ rest) = (past.findSome? Event.settles?).getD (settlement rest) := by
  rw [settlement, List.findSome?_append]
  cases past.findSome? Event.settles? <;> rfl

theorem settlement_append_of_settled (settled : settlement past ≠ .open) (rest : List Event) :
    settlement (past ++ rest) = settlement past := by
  rw [settlement_append]
  cases found : past.findSome? Event.settles? with
  | none => exact absurd (by rw [settlement, found]; rfl) settled
  | some state =>
      have known : settlement past = state := by rw [settlement, found]; rfl
      rw [known]
      rfl

theorem settlement_singleton (event : Event) : settlement [event] = event.settles?.getD .open := by
  rw [settlement, List.findSome?_singleton]

theorem recorded_start (capacity : Nat) (cancelled : Bool) :
    Recorded cancelled [] (start capacity cancelled).session :=
  ⟨rfl, rfl, (Bool.or_false cancelled).symm⟩

theorem Recorded.step (recorded : Recorded cancelled past execution.session) (event : Event) :
    Recorded cancelled (past ++ [event]) (execution.step event).2.session := by
  rcases execution.session_step event with ⟨scope, sender, exit⟩
  constructor
  · rw [exit, recorded.sender, recorded.exit, settlement_append, settlement_singleton, settlement]
    cases past.findSome? Event.settles? <;> rfl
  · rw [sender, recorded.sender, List.findSome?_append, List.findSome?_singleton]
    cases past.findSome? Event.settles? <;> rfl
  · rw [scope, recorded.cancelled, List.any_append, Bool.or_assoc, List.any_cons, List.any_nil,
      Bool.or_false]

theorem Recorded.run (recorded : Recorded cancelled past execution.session) (events : List Event) :
    Recorded cancelled (past ++ events) (execution.run events).2.session := by
  induction events generalizing past execution with
  | nil => simpa [Execution.run] using recorded
  | cons event events ih => simpa [snd_run_cons] using ih (recorded.step event)

/-- How an event moves a wait in a phase: what the wait returns, whether the handle to the code is
taken afterwards, and the phase that the wait is in then. -/
inductive Moves (session : ExecSession) (phase : WaitPhase) :
    Event → Option (Except Fault Int) → Bool → WaitPhase → Prop
  | aside {event : Event} : Moves session phase event none session.awaited phase
  | request (free : session.awaited = false) :
      Moves session phase (.exchange (.request .wait)) session.exitAnswer.outcome? true phase
  | await (free : session.awaited = false) : Moves session phase .await none true .waiting
  | poll (waiting : phase = .waiting) :
      Moves session phase .poll session.exitAnswer.outcome? session.awaited
        (.after session.exitAnswer.outcome?)
  | refuse (waiting : phase = .waiting) (cancelled : session.cancelled = true) :
      Moves session phase .glance (some (.error .cancelled)) session.awaited .over
  | glance (waiting : phase = .waiting) (active : session.cancelled = false) :
      Moves session phase .glance none session.awaited .looking
  | look (looking : phase = .looking) :
      Moves session phase .look session.codeAnswer.outcome? session.awaited
        (.after session.codeAnswer.outcome?)
  | leave (waiting : phase = .waiting) :
      Moves session phase .leave none session.awaited .over

theorem moves_of_gone (gone : execution.step event = (.gone, execution)) :
    Moves execution.session execution.phase event (execution.returns event)
      (execution.step event).2.session.awaited (execution.step event).2.phase := by
  have nothing : event.outcome? .gone = none := by
    unfold Event.outcome?
    split <;> rfl
  rw [returns, gone, nothing]
  exact .aside

theorem moves (execution : Execution) (event : Event) :
    Moves execution.session execution.phase event (execution.returns event)
      (execution.step event).2.session.awaited (execution.step event).2.phase := by
  by_cases concerned : event.concernsExit = true
  · cases event with
    | exchange event =>
        cases event with
        | request request =>
            rw [returns, step_request _ concerned]
            cases request with
            | wait =>
                by_cases awaited : execution.session.awaited = true
                · simp only [ExecSession.step, awaited, if_true]
                  exact .aside
                · have free : execution.session.awaited = false := by simpa using awaited
                  simp only [ExecSession.step, free, Bool.false_eq_true, if_false]
                  exact .request free
            | resolve outcome =>
                simp only [ExecSession.step]
                split <;> exact .aside
            | dropExitSender =>
                simp only [ExecSession.step]
                split <;> exact .aside
            | cancel => exact .aside
            | _ => contradiction
        | poll => contradiction
        | settle => contradiction
    | await =>
        by_cases awaited : execution.session.awaited = true
        · exact moves_of_gone (if_pos awaited)
        · rw [returns, step, if_neg awaited]
          exact .await (by simpa using awaited)
    | poll =>
        by_cases waiting : execution.phase = .waiting
        · rw [returns, step, if_pos waiting]
          exact .poll waiting
        · exact moves_of_gone (if_neg waiting)
    | glance =>
        by_cases waiting : execution.phase = .waiting
        · rw [returns, step, if_pos waiting]
          by_cases cancelled : execution.session.cancelled = true
          · rw [if_pos cancelled]
            exact .refuse waiting cancelled
          · rw [if_neg cancelled]
            exact .glance waiting (by simpa using cancelled)
        · exact moves_of_gone (if_neg waiting)
    | look =>
        by_cases looking : execution.phase = .looking
        · rw [returns, step, if_pos looking]
          exact .look looking
        · exact moves_of_gone (if_neg looking)
    | leave =>
        by_cases waiting : execution.phase = .waiting
        · rw [returns, step, if_pos waiting]
          exact .leave waiting
        · exact moves_of_gone (if_neg waiting)
  · have aside : event.concernsExit = false := by simpa using concerned
    have same : (execution.step event).2.view = execution.view := view_step_of_output aside
    have awaited : (execution.step event).2.session.awaited = execution.session.awaited :=
      congrArg (fun view => view.1.awaited) same
    have phase : (execution.step event).2.phase = execution.phase := congrArg Prod.snd same
    rw [returns, outcome?_of_output aside, awaited, phase]
    exact .aside

/-- A wait that has begun took the handle to the code. -/
def Begun (awaited : Bool) (phase : WaitPhase) : Prop :=
  phase ≠ .unstarted → awaited = true

/-- Nothing more is returned: the wait is over, or it was given up as soon as it was polled. -/
def Spent (awaited : Bool) (phase : WaitPhase) : Prop :=
  awaited = true ∧ (phase = .unstarted ∨ phase = .over)

/-- The wait has begun and is not over. -/
def Pending (phase : WaitPhase) : Prop :=
  phase = .waiting ∨ phase = .looking

namespace Moves

variable {session : ExecSession} {phase phase' : WaitPhase}
  {outcome? : Option (Except Fault Int)} {awaited : Bool}

theorem begun (moves : Moves session phase event outcome? awaited phase')
    (begun : Begun session.awaited phase) : Begun awaited phase' := by
  cases moves with
  | aside => exact begun
  | request free => exact fun _ => rfl
  | await free => exact fun _ => rfl
  | poll waiting => exact fun _ => begun (by simp [waiting])
  | refuse waiting cancelled => exact fun _ => begun (by simp [waiting])
  | glance waiting active => exact fun _ => begun (by simp [waiting])
  | look looking => exact fun _ => begun (by simp [looking])
  | leave waiting => exact fun _ => begun (by simp [waiting])

theorem spent (moves : Moves session phase event outcome? awaited phase')
    (spent : Spent session.awaited phase) : outcome? = none ∧ Spent awaited phase' := by
  rcases spent with ⟨taken, ended⟩
  cases moves with
  | aside => exact ⟨rfl, taken, ended⟩
  | request free => simp [taken] at free
  | await free => simp [taken] at free
  | poll waiting => simp [waiting] at ended
  | refuse waiting cancelled => simp [waiting] at ended
  | glance waiting active => simp [waiting] at ended
  | look looking => simp [looking] at ended
  | leave waiting => simp [waiting] at ended

/-- After it has returned, a wait does not return again. -/
theorem spent_of_returned (moves : Moves session phase event outcome? awaited phase')
    (returned : outcome?.isSome = true) (begun : Begun session.awaited phase) :
    Spent awaited phase' := by
  cases moves with
  | aside => contradiction
  | request free =>
      refine ⟨rfl, .inl ?_⟩
      apply Decidable.byContradiction
      intro started
      rw [begun started] at free
      contradiction
  | await free => contradiction
  | poll waiting => exact ⟨begun (by simp [waiting]), .inr (if_pos returned)⟩
  | refuse waiting cancelled => exact ⟨begun (by simp [waiting]), .inr rfl⟩
  | glance waiting active => contradiction
  | look looking => exact ⟨begun (by simp [looking]), .inr (if_pos returned)⟩
  | leave waiting => contradiction

/-- What is returned is that the scope is cancelled, or it is the exit code. -/
theorem outcome_cases (moves : Moves session phase event outcome? awaited phase')
    (returned : outcome? = some outcome) :
    session.cancelled = true ∧ outcome = .error .cancelled ∨
      session.exit.outcome? = some outcome := by
  have polled (answered : session.exitAnswer.outcome? = some outcome) :
      session.cancelled = true ∧ outcome = .error .cancelled ∨
        session.exit.outcome? = some outcome := by
    rw [session.outcome?_exitAnswer] at answered
    split at answered
    · next cancelled => exact .inl ⟨cancelled, (Option.some.inj answered).symm⟩
    · exact .inr answered
  cases moves with
  | aside => contradiction
  | request free => exact polled returned
  | await free => contradiction
  | poll waiting => exact polled returned
  | refuse waiting cancelled => exact .inl ⟨cancelled, (Option.some.inj returned).symm⟩
  | glance waiting active => contradiction
  | look looking =>
      rw [session.outcome?_codeAnswer] at returned
      exact .inr returned
  | leave waiting => contradiction

/-- A poll that comes after the scope was cancelled does not look at the code. -/
theorem doomed (moves : Moves session phase event outcome? awaited phase')
    (cancelled : session.cancelled = true) (aside : phase ≠ .looking) :
    phase' ≠ .looking ∧ ∀ outcome ∈ outcome?, outcome = .error .cancelled := by
  have answer : session.exitAnswer.outcome? = some (.error .cancelled) := by
    rw [session.outcome?_exitAnswer, if_pos cancelled]
  cases moves with
  | aside => exact ⟨aside, by simp⟩
  | request free => exact ⟨aside, by simp [answer]⟩
  | await free => exact ⟨by simp, by simp⟩
  | poll waiting => exact ⟨by simp [answer, WaitPhase.after], by simp [answer]⟩
  | refuse waiting cancelled => exact ⟨by simp, by simp⟩
  | glance waiting active => simp [cancelled] at active
  | look looking => exact absurd looking aside
  | leave waiting => exact ⟨by simp, by simp⟩

theorem not_looking (moves : Moves session phase event outcome? awaited phase')
    (other : event ≠ .glance) (aside : phase ≠ .looking) : phase' ≠ .looking := by
  cases moves with
  | aside => exact aside
  | request free => exact aside
  | await free => simp
  | poll waiting =>
      rw [WaitPhase.after]
      split <;> simp
  | refuse waiting cancelled => simp
  | glance waiting active => exact absurd rfl other
  | look looking => exact absurd looking aside
  | leave waiting => simp

/-- A wait goes on until it returns or is given up. -/
theorem pending (moves : Moves session phase event outcome? awaited phase')
    (silent : outcome? = none) (stays : event ≠ .leave) (pending : Pending phase) :
    Pending phase' := by
  cases moves with
  | aside => exact pending
  | request free => exact pending
  | await free => exact .inl rfl
  | poll waiting => exact .inl (by rw [silent]; rfl)
  | refuse waiting cancelled => contradiction
  | glance waiting active => exact .inr rfl
  | look looking => exact .inl (by rw [silent]; rfl)
  | leave waiting => contradiction

end Moves

/-! ## Runs -/

theorem returned_of_spent (spent : Spent execution.session.awaited execution.phase)
    (events : List Event) : returned (execution.run events).1 = [] := by
  induction events generalizing execution with
  | nil => rfl
  | cons event events ih =>
      rcases (execution.moves event).spent spent with ⟨silent, spent⟩
      rw [returned_run_cons, silent, ih spent]
      rfl

theorem length_returned_le_one (begun : Begun execution.session.awaited execution.phase)
    (events : List Event) : (returned (execution.run events).1).length ≤ 1 := by
  induction events generalizing execution with
  | nil => exact Nat.zero_le 1
  | cons event events ih =>
      have moved := execution.moves event
      rw [returned_run_cons]
      cases returned : execution.returns event with
      | none => simpa using ih (moved.begun begun)
      | some outcome =>
          have spent := moved.spent_of_returned (by rw [returned]; rfl) begun
          rw [returned_of_spent spent]
          exact Nat.le_refl 1

/-- A wait for a code in a scope that was cancelled before a poll returns just this. -/
theorem returned_of_cancelled (cancelled : execution.session.cancelled = true)
    (aside : execution.phase ≠ .looking) (events : List Event) :
    ∀ outcome ∈ returned (execution.run events).1, outcome = .error .cancelled := by
  induction events generalizing execution with
  | nil => exact List.forall_mem_nil _
  | cons event events ih =>
      rcases (execution.moves event).doomed cancelled aside with ⟨asideStill, refused⟩
      have cancelledStill : (execution.step event).2.session.cancelled = true := by
        rw [(execution.session_step event).1, cancelled, Bool.true_or]
      rw [returned_run_cons]
      intro outcome member
      rcases List.mem_append.mp member with here | later
      · exact refused outcome (Option.mem_toList.mp here)
      · exact ih cancelledStill asideStill outcome later

/-- Where no poll was interrupted, none is under way. -/
theorem not_looking_run (aside : execution.phase ≠ .looking) {events : List Event}
    (whole : .glance ∉ events) : (execution.run events).2.phase ≠ .looking := by
  induction events generalizing execution with
  | nil => exact aside
  | cons event events ih =>
      rw [List.mem_cons, not_or] at whole
      exact ih ((execution.moves event).not_looking (Ne.symm whole.1) aside) whole.2

theorem pending_run (pending : Pending execution.phase) {events : List Event}
    (stays : .leave ∉ events) (silent : returned (execution.run events).1 = []) :
    Pending (execution.run events).2.phase := by
  induction events generalizing execution with
  | nil => exact pending
  | cons event events ih =>
      rw [List.mem_cons, not_or] at stays
      rw [returned_run_cons, List.append_eq_nil_iff, Option.toList_eq_nil_iff] at silent
      exact ih ((execution.moves event).pending silent.1 (Ne.symm stays.1) pending) stays.2 silent.2

/-- Whatever is done in whatever order, the first to settle the exit code settles it for good, and
the wait returns at most once, be it the code or that the scope is cancelled. A poll that finds the
scope cancelled returns this even if the code is known; any other poll returns the code if it is
known by then, and the wait goes on if it is not. Once the scope is cancelled and no poll under way
has missed it, nothing else can be returned; unless polls are interrupted, none is ever under way.
All this is the same whatever is done about the output, and whatever its capacity. -/
theorem exit_code_settled_once (capacity : Nat) (cancelled : Bool) (past : List Event) :
    let execution := ((start capacity cancelled).run past).2
    let isCancelled := cancelled || past.any Event.cancels
    let polled := if isCancelled then some (.error .cancelled) else (settlement past).outcome?
    (execution.session.exit = settlement past ∧ (settlement past ≠ .open →
      ∀ rest, (execution.run rest).2.session.exit = settlement past)) ∧
    (returned ((start capacity cancelled).run past).1).length ≤ 1 ∧
    (∀ event outcome, execution.returns event = some outcome →
      isCancelled = true ∧ outcome = .error .cancelled ∨
        (settlement past).outcome? = some outcome) ∧
    (execution.session.awaited = false → (execution.step .await).2.phase = .waiting ∧
      execution.returns (.exchange (.request .wait)) = polled) ∧
    (execution.phase = .waiting → execution.returns .poll = polled ∧
      execution.returns .glance = if isCancelled then some (.error .cancelled) else none) ∧
    (execution.phase = .looking → execution.returns .look = (settlement past).outcome?) ∧
    (Pending execution.phase → ∀ rest, .leave ∉ rest → returned (execution.run rest).1 = [] →
      Pending (execution.run rest).2.phase) ∧
    (isCancelled = true → execution.phase ≠ .looking →
      ∀ rest, ∀ outcome ∈ returned (execution.run rest).1, outcome = .error .cancelled) ∧
    (.glance ∉ past → execution.phase ≠ .looking) ∧
    ∀ other others, past.filter Event.concernsExit = others.filter Event.concernsExit →
      returned ((start capacity cancelled).run past).1 =
        returned ((start other cancelled).run others).1 := by
  intro execution isCancelled polled
  have recorded : Recorded cancelled past execution.session :=
    (recorded_start capacity cancelled).run past
  have answer : execution.session.exitAnswer.outcome? = polled := by
    rw [execution.session.outcome?_exitAnswer, recorded.exit, recorded.cancelled]
  refine ⟨⟨recorded.exit, ?_⟩, length_returned_le_one (fun begun => absurd rfl begun) past, ?_, ?_,
    ?_, ?_, ?_, ?_, not_looking_run (by simp [start]), ?_⟩
  · intro settled rest
    rw [(recorded.run rest).exit, settlement_append_of_settled settled]
  · intro event outcome returned
    have found := (execution.moves event).outcome_cases returned
    rwa [recorded.cancelled, recorded.exit] at found
  · intro free
    refine ⟨by simp [step, free], ?_⟩
    have asked : (execution.step (.exchange (.request .wait))).1 =
        execution.session.exitAnswer := by
      rw [step_request _ rfl]
      simp [ExecSession.step, free]
    rw [returns, asked, ← answer]
    rfl
  · intro waiting
    constructor
    · rw [returns, step, if_pos waiting, ← answer]
      rfl
    · rw [returns, step, if_pos waiting, recorded.cancelled]
      split <;> rfl
  · intro looking
    rw [returns, step, if_pos looking, ← recorded.exit, ← execution.session.outcome?_codeAnswer]
    rfl
  · intro pending rest stays silent
    exact pending_run pending stays silent
  · intro found aside rest
    exact returned_of_cancelled (recorded.cancelled.trans found) aside rest
  · intro other others same
    have alike : (start capacity cancelled).view = (start other cancelled).view := rfl
    rw [← returned_filter, run_filter alike, same, ← run_filter rfl, returned_filter]

/-- In one of the runs there is output that nobody receives, in the other one there is none. -/
theorem exit_code_settled_once_unread :
    let unread : List Event :=
      [.await, .exchange (.request (.send 0 ⟨.stdout, .ok [104, 105]⟩)), .poll,
        .exchange (.request (.resolve (.ok 3))), .exchange (.request (.resolve (.ok 4))),
        .exchange (.request .dropOutput), .poll, .exchange (.request .cancel), .poll]
    let silent : List Event :=
      [.await, .poll, .exchange (.request (.resolve (.ok 3))),
        .exchange (.request (.resolve (.ok 4))), .poll, .exchange (.request .cancel), .poll]
    unread.filter Event.concernsExit = silent.filter Event.concernsExit ∧
      returned ((start 1 false).run unread).1 = [.ok 3] ∧
      returned ((start 8 false).run silent).1 = [.ok 3] := by
  intro unread silent
  have same : unread.filter Event.concernsExit = silent.filter Event.concernsExit := rfl
  have once : returned ((start 8 false).run silent).1 = [.ok 3] := rfl
  refine ⟨same, ?_, once⟩
  rw [(exit_code_settled_once 1 false unread).2.2.2.2.2.2.2.2.2 8 silent same, once]

end Execution
end EntryTree
