import EntryTree.Proofs.Exec.Exchange

/-!
# Receiving output

What the consumer of a session receives: the chunk that has waited longest, the end of the output,
or nothing yet. Nothing comes any more in a cancelled scope and after the end; and where nobody is
left to send, and no chunk that waits carries a fault, all that waits can be received.
-/

namespace EntryTree

/-- Whoever polls a session is told that there is nothing any more, gets the chunk that waits first,
or is told that there is nothing yet. -/
theorem ExecSession.poll_cases (session : ExecSession) :
    (session.poll = (.finished, session) ∧ (session.cancelled = true ∨ session.Exhausted)) ∨
    (∃ chunk queue, session.queue = chunk :: queue ∧
      session.poll = (.chunk chunk, { session with queue })) ∨
    session.queue = [] ∧ session.senders.any id = true ∧ session.poll = (.pending, session) := by
  unfold poll
  by_cases cancelled : session.cancelled = true
  · exact .inl ⟨by simp [cancelled], .inl cancelled⟩
  · cases waiting : session.queue with
    | nil =>
        by_cases present : session.senders.any id = true
        · exact .inr (.inr ⟨rfl, present, by simp [cancelled, present]⟩)
        · have silent : session.senders.any id = false := by simpa using present
          exact .inl ⟨by simp [cancelled, silent], .inr ⟨waiting, silent⟩⟩
    | cons chunk queue =>
        exact .inr (.inl ⟨chunk, queue, rfl, by simp [cancelled]⟩)

/-- To receive chunks takes them from the queue and may end the output, and changes nothing else. -/
theorem ExecSession.receive_session (session : ExecSession) :
    ∃ queue ends,
      session.receive.2 = { session with queue, closed := session.closed || ends } := by
  unfold receive
  split
  · exact ⟨session.queue, false, by simp⟩
  · rcases session.poll_cases with ⟨polled, _⟩ | ⟨chunk, queue, _, polled⟩ | ⟨_, _, polled⟩
    · exact ⟨session.queue, true, by simp [polled, settle, Received.isLast, close]⟩
    · refine ⟨queue, chunk.isError, ?_⟩
      by_cases fails : chunk.isError = true <;>
        simp [polled, settle, Received.isLast, close, fails]
    · exact ⟨session.queue, false, by simp [polled, settle, Received.isLast]⟩

theorem ExecSession.drain_session (steps : Nat) (session : ExecSession) :
    ∃ queue ends,
      (session.drain steps).2 = { session with queue, closed := session.closed || ends } := by
  induction steps generalizing session with
  | zero =>
      rcases session.receive_session with ⟨queue, ends, received⟩
      refine ⟨queue, ends, ?_⟩
      rw [drain]
      split <;> simp_all
  | succ steps ih =>
      rcases session.receive_session with ⟨queue, ends, received⟩
      rw [drain]
      split
      · next taken => exact ⟨queue, ends, by simpa [taken] using received⟩
      · next taken => exact ⟨queue, ends, by simpa [taken] using received⟩
      · next chunk after taken =>
          obtain rfl : after = { session with queue, closed := session.closed || ends } := by
            simpa [taken] using received
          rcases ih { session with queue, closed := session.closed || ends } with
            ⟨queue, endsLater, drained⟩
          refine ⟨queue, ends || endsLater, ?_⟩
          rw [← Bool.or_assoc, ← drained]
          split <;> simp_all

/-- The consumer gets nothing any more. -/
def ExecSession.Quiet (session : ExecSession) : Prop :=
  session.cancelled = true ∨ session.closed = true

theorem ExecSession.Quiet.receive {session : ExecSession} (quiet : session.Quiet) :
    session.receive.1 = .finished := by
  unfold ExecSession.receive
  rcases quiet with cancelled | closed
  · split
    · rfl
    · simp [poll, cancelled]
  · simp [closed]

theorem ExecSession.drain_of_finished {session : ExecSession}
    (finished : session.receive.1 = .finished) (steps : Nat) :
    (session.drain steps).1 = some [] := by
  rcases received : session.receive with ⟨_ | _ | _, after⟩ <;> simp [received] at finished
  cases steps <;> simp [drain, received]

/-- Nobody sends any more, and nothing keeps the consumer from getting all that waits. -/
structure ExecSession.Deliverable (session : ExecSession) : Prop where
  running : session.cancelled = false
  silent : session.senders.any id = false
  staying : session.consumed = false
  intact : ∀ chunk ∈ session.queue, chunk.isError = false
  closed : session.closed = true → session.queue = []

namespace ExecSession.Deliverable

variable {session : ExecSession} {chunk : Chunk} {queue : List Chunk}

theorem receive_nil (deliverable : session.Deliverable) (waiting : session.queue = []) :
    session.receive = (.finished, session.close) ∧ session.close.Deliverable := by
  refine ⟨?_, { deliverable with closed := fun _ => waiting }⟩
  unfold receive
  split
  · next closed => rw [close, ← closed]
  · simp [poll, deliverable.running, waiting, deliverable.silent, settle, Received.isLast]

theorem receive_cons (deliverable : session.Deliverable)
    (waiting : session.queue = chunk :: queue) :
    session.receive = (.chunk chunk, { session with queue }) ∧
      ({ session with queue } : ExecSession).Deliverable := by
  have intact := deliverable.intact
  rw [waiting] at intact
  rcases List.forall_mem_cons.mp intact with ⟨first, others⟩
  have notClosed : session.closed = false := by
    rw [← Bool.not_eq_true]
    intro closed
    rw [deliverable.closed closed] at waiting
    contradiction
  refine ⟨?_, { deliverable with intact := others, closed := by simp [notClosed] }⟩
  simp [receive, notClosed, poll, deliverable.running, waiting, settle, Received.isLast, first]

/-- Collecting brings all that waits. -/
theorem drain {steps : Nat} (deliverable : session.Deliverable)
    (enough : session.queue.length ≤ steps) : (session.drain steps).1 = some session.queue := by
  induction steps generalizing session with
  | zero =>
      have waiting := List.eq_nil_of_length_eq_zero (Nat.le_zero.mp enough)
      have finished := congrArg Prod.fst (deliverable.receive_nil waiting).1
      rw [drain_of_finished finished, waiting]
  | succ steps ih =>
      cases waiting : session.queue with
      | nil => exact drain_of_finished (congrArg Prod.fst (deliverable.receive_nil waiting).1) _
      | cons chunk queue =>
          rcases deliverable.receive_cons waiting with ⟨received, left⟩
          have fewer : queue.length ≤ steps := by
            rw [waiting] at enough
            exact Nat.le_of_succ_le_succ enough
          have drained : (({ session with queue } : ExecSession).drain steps).1 = some queue :=
            ih left fewer
          rw [ExecSession.drain, received]
          rcases rest : ({ session with queue } : ExecSession).drain steps with ⟨_ | _, after⟩ <;>
            simp_all

end ExecSession.Deliverable

namespace ExecSession.Received

variable {received : Received}

theorem endsOutput_answer (received : Received) :
    received.answer.endsOutput = received.isLast := by
  cases received <;> rfl

theorem isLast_of_mem {chunk : Chunk} (member : chunk ∈ received.answer.received)
    (fails : chunk.isError = true) : received.isLast = true := by
  cases received with
  | chunk next =>
      rw [answer, ExecAnswer.received, List.mem_singleton] at member
      rwa [isLast, ← member]
  | finished => rfl
  | pending => simp [answer, ExecAnswer.received] at member

end ExecSession.Received

end EntryTree
