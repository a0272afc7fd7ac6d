import EntryTree.Proofs.Exec.Receiving

/-!
# The accounts of an exchange

Whatever producers and the consumer of an output do and in whatever order, every accepted chunk can
be accounted for: it was returned, or the consumer is about to return it, or it waits. The accounts
also say in which ways an output can have ended.

Every event enters something into the accounts and leaves them in order. The consumer's asking for
the next chunk is taken apart into its two steps, and everything else that receives chunks is put
together from these.
-/

namespace EntryTree

namespace Exchange

open ExecSession

theorem taken_some (session : ExecSession) (received : Received) :
    taken ⟨session, some received⟩ = received.answer.received := by
  cases received <;> rfl

/-- The accounts of an exchange: what was accepted and what was returned so far, and whether the
consumer was told that the output has ended. -/
structure Sound (capacity : Nat) (accepted returned : List Chunk) (ended : Bool)
    (exchange : Exchange) : Prop where
  /-- An accepted chunk was returned, or is about to be, or waits in the queue. -/
  balance : accepted = returned ++ exchange.taken ++ exchange.session.queue
  capacity_eq : exchange.session.capacity = max capacity 1
  bounded : exchange.session.queue.length ≤ max capacity 1
  /-- Nothing comes after a chunk with a fault. -/
  last : ∀ chunk ∈ (returned ++ exchange.taken).dropLast, chunk.isError = false
  failed : (∃ chunk ∈ returned, chunk.isError = true) → exchange.session.rejects = true
  /-- Nobody is about to return a chunk of an output that has ended. -/
  idle : exchange.session.rejects = true → exchange.held = none
  closed : ended = true → exchange.session.closed = true
  /-- There are three ways to end. -/
  cause : exchange.session.closed = true → exchange.session.cancelled = true ∨
    (∃ chunk ∈ returned, chunk.isError = true) ∨ exchange.session.Exhausted
  causeHeld : exchange.held = some .finished →
    exchange.session.cancelled = true ∨ exchange.session.Exhausted

variable {capacity : Nat} {accepted returned : List Chunk} {ended : Bool} {session : ExecSession}
  {held : Option Received}

namespace Sound

/-- A chunk is accepted. -/
theorem accept {sender : Nat} {chunk : Chunk}
    (sound : Sound capacity accepted returned ended ⟨session, held⟩)
    (has : session.hasSender sender = true) (goesOn : session.rejects = false)
    (room : session.queue.length < session.capacity) :
    Sound capacity (accepted ++ [chunk]) returned ended
      ⟨{ session with queue := session.queue ++ [chunk] }, held⟩ := by
  have present := any_senders_of_hasSender has
  have notClosed : session.closed = false := by simp_all [rejects]
  constructor
  · rw [sound.balance]
    simp [taken]
  · exact sound.capacity_eq
  · have capacity_eq := sound.capacity_eq
    simp only [List.length_append, List.length_singleton] at *
    omega
  · exact sound.last
  · exact sound.failed
  · exact sound.idle
  · exact sound.closed
  · intro closed
    simp [notClosed] at closed
  · intro finished
    rcases sound.causeHeld finished with cancelled | ⟨_, silent⟩
    · exact .inl cancelled
    · rw [present] at silent
      contradiction

/-- Something happens that leaves the output as it is. -/
theorem aside {request : ExecRequest} {answer : ExecAnswer} {after : ExecSession}
    (sound : Sound capacity accepted returned ended ⟨session, held⟩)
    (aside : session.Aside request answer after)
    (free : held = none ∨ request.isOfConsumer = false) :
    Sound capacity accepted returned ended ⟨after, held⟩ := by
  have exhausted : session.Exhausted → after.Exhausted := by
    rintro ⟨empty, silent⟩
    exact ⟨by rw [aside.queue, empty], aside.silent silent⟩
  have cancelled : session.cancelled = true → after.cancelled = true := by
    intro cancelled
    exact aside.cancelled.mpr (.inl cancelled)
  constructor
  · simpa [taken, aside.queue] using sound.balance
  · simpa [aside.capacity] using sound.capacity_eq
  · simpa [aside.queue] using sound.bounded
  · exact sound.last
  · intro failed
    have rejects := sound.failed failed
    simp only [ExecSession.rejects, aside.closed, Bool.or_eq_true] at *
    exact rejects.imp_right aside.left
  · intro rejects
    rcases free with rfl | others
    · rfl
    · apply sound.idle
      simpa [ExecSession.rejects, aside.closed, aside.staying others] using rejects
  · simpa [aside.closed] using sound.closed
  · intro closed
    rw [aside.closed] at closed
    exact (sound.cause closed).imp cancelled (Or.imp_right exhausted)
  · intro finished
    exact (sound.causeHeld finished).imp cancelled exhausted

/-- The consumer asks for the next chunk and looks what there is. -/
theorem take (sound : Sound capacity accepted returned ended ⟨session, none⟩)
    (goesOn : session.rejects = false) :
    Sound capacity accepted returned ended ⟨session.poll.2, some session.poll.1⟩ := by
  -- A chunk with a fault would have closed the output when it was returned.
  have intact : ∀ chunk ∈ returned, chunk.isError = false := by
    intro chunk member
    rw [← Bool.not_eq_true]
    intro fails
    rw [sound.failed ⟨chunk, member, fails⟩] at goesOn
    contradiction
  have balance := sound.balance
  have bounded := sound.bounded
  have notClosed : session.closed = false := by simp_all [rejects]
  rcases poll_cases session with
    ⟨polled, ends⟩ | ⟨chunk, queue, waiting, polled⟩ | ⟨empty, present, polled⟩
  · rw [polled]
    exact ⟨balance, sound.capacity_eq, bounded, sound.last, sound.failed, by simp [goesOn],
      sound.closed, sound.cause, fun _ => ends⟩
  · rw [polled]
    rw [waiting] at balance bounded
    refine ⟨by simpa [taken] using balance, sound.capacity_eq, ?_, ?_, sound.failed, ?_,
      sound.closed, ?_, by simp⟩
    · exact Nat.le_of_succ_le bounded
    · simpa [taken] using intact
    · intro rejects
      exact absurd (rejects.symm.trans goesOn) (by decide)
    · intro closed
      exact absurd (closed.symm.trans notClosed) (by decide)
  · rw [polled]
    exact ⟨balance, sound.capacity_eq, bounded, sound.last, sound.failed, by simp [goesOn],
      sound.closed, sound.cause, by simp⟩

/-- The consumer acts upon what it found and returns it. -/
theorem give {received : Received}
    (sound : Sound capacity accepted returned ended ⟨session, some received⟩) :
    Sound capacity accepted (returned ++ received.answer.received)
      (ended || received.answer.endsOutput) ⟨session.settle received, none⟩ := by
  have notClosed : session.closed = false := by
    rw [← Bool.not_eq_true]
    intro closed
    have idle := sound.idle (by simp [rejects, closed])
    contradiction
  have notEnded : ended = false := by
    rw [← Bool.not_eq_true]
    intro told
    exact absurd ((sound.closed told).symm.trans notClosed) (by decide)
  have balance := sound.balance
  have last := sound.last
  rw [taken_some] at balance last
  constructor
  · simpa [taken] using balance
  · simpa using sound.capacity_eq
  · simpa using sound.bounded
  · simpa [taken] using last
  · rintro ⟨chunk, member, fails⟩
    rcases List.mem_append.mp member with before | now
    · have rejects := sound.failed ⟨chunk, before, fails⟩
      simp_all [ExecSession.rejects]
    · have isLast := Received.isLast_of_mem now fails
      simp [rejects, isLast]
  · exact fun _ => rfl
  · simp [notEnded, notClosed, Received.endsOutput_answer]
  · intro closed
    have isLast : received.isLast = true := by simpa [notClosed] using closed
    cases received with
    | chunk next => exact .inr (.inl ⟨next, by simp [Received.answer, ExecAnswer.received], isLast⟩)
    | finished =>
        rcases sound.causeHeld rfl with cancelled | exhausted
        · exact .inl (by simpa using cancelled)
        · exact .inr (.inr (by simpa [Exhausted] using exhausted))
    | pending => contradiction
  · intro finished
    contradiction

/-- The consumer asks for the next chunk and returns it at once. -/
theorem receive (sound : Sound capacity accepted returned ended ⟨session, none⟩)
    (staying : session.consumed = false) :
    Sound capacity accepted (returned ++ session.receive.1.answer.received)
      (ended || session.receive.1.answer.endsOutput) ⟨session.receive.2, none⟩ := by
  by_cases closed : session.closed = true
  · have received : session.receive = (.finished, session) := by
      simp [ExecSession.receive, closed]
    rw [received]
    simpa [Received.answer, ExecAnswer.received] using
      { sound with closed := fun _ => closed }
  · have received : session.receive = (session.poll.1, session.poll.2.settle session.poll.1) := by
      simp [ExecSession.receive, closed]
    rw [received]
    exact (sound.take (by simp [rejects, closed, staying])).give

/-- The consumer is told that the output has ended. -/
theorem finish {after : ExecSession}
    (sound : Sound capacity accepted returned ended ⟨session, none⟩)
    (staying : session.consumed = false) (finished : session.receive = (.finished, after)) :
    Sound capacity accepted returned true ⟨after, none⟩ := by
  have received := sound.receive staying
  rw [finished] at received
  simpa [Received.answer, ExecAnswer.received, ExecAnswer.endsOutput] using received

/-- The consumer receives chunks until it is told that the output has ended. -/
theorem drain {steps : Nat} {chunks : List Chunk} {after : ExecSession}
    (sound : Sound capacity accepted returned ended ⟨session, none⟩)
    (staying : session.consumed = false)
    (drained : session.drain steps = (some chunks, after)) :
    Sound capacity accepted (returned ++ chunks) true ⟨after, none⟩ := by
  induction steps generalizing session returned ended chunks with
  | zero =>
      rw [ExecSession.drain] at drained
      split at drained
      · next finished =>
          simp only [Prod.mk.injEq, Option.some.injEq] at drained
          rcases drained with ⟨rfl, rfl⟩
          simpa using sound.finish staying finished
      · simp at drained
  | succ steps ih =>
      rw [ExecSession.drain] at drained
      split at drained
      · next finished =>
          simp only [Prod.mk.injEq, Option.some.injEq] at drained
          rcases drained with ⟨rfl, rfl⟩
          simpa using sound.finish staying finished
      · simp at drained
      · next chunk rest taken =>
          have received := sound.receive staying
          rcases session.receive_session with ⟨queue, ends, stays⟩
          rw [taken] at received stays
          split at drained
          · next others last drainedRest =>
              simp only [Prod.mk.injEq, Option.some.injEq] at drained
              rcases drained with ⟨rfl, rfl⟩
              have finished := ih received (by rw [stays, staying]) drainedRest
              simpa [Received.answer, ExecAnswer.received] using finished
          · simp at drained

/-- The consumer leaves. -/
theorem leave (sound : Sound capacity accepted returned ended ⟨session, none⟩) :
    Sound capacity accepted returned ended ⟨{ session with consumed := true }, none⟩ :=
  { sound with failed := fun _ => by simp [rejects], idle := fun _ => rfl }

/-- What cannot happen now changes nothing. -/
theorem gone {exchange : Exchange} (sound : Sound capacity accepted returned ended exchange)
    (event : Event) :
    Sound capacity (accepted ++ event.accepted .gone) (returned ++ ExecAnswer.gone.received)
      (ended || ExecAnswer.gone.endsOutput) exchange := by
  have nothing : event.accepted .gone = [] := by
    rcases event with ⟨request⟩ | _ | _
    · cases request <;> rfl
    · rfl
    · rfl
  simpa [nothing, ExecAnswer.received, ExecAnswer.endsOutput] using sound

/-- Whatever is requested, the accounts still hold. -/
theorem request (sound : Sound capacity accepted returned ended ⟨session, held⟩)
    (request : ExecRequest) (free : held = none ∨ request.isOfConsumer = false) :
    Sound capacity (accepted ++ request.accepted (session.step request).1)
      (returned ++ (session.step request).1.received)
      (ended || (session.step request).1.endsOutput) ⟨(session.step request).2, held⟩ := by
  rcases session.step_cases request with
    ⟨sender, chunk, rfl, has, goesOn, room, stepped⟩ | ⟨rfl, staying, stepped⟩ |
    ⟨chunks, after, rfl, staying, drained, stepped⟩ | aside
  · rw [stepped]
    simpa [ExecRequest.accepted, ExecAnswer.received, ExecAnswer.endsOutput] using
      sound.accept has goesOn room
  · rw [stepped]
    rcases free with rfl | others
    · simpa [ExecRequest.accepted] using sound.receive staying
    · contradiction
  · rw [stepped]
    rcases free with rfl | others
    · simpa [ExecRequest.accepted, ExecAnswer.received, ExecAnswer.endsOutput] using
        (sound.drain staying drained).leave
    · contradiction
  · simpa [aside.accepted, aside.received, aside.goesOn] using sound.aside aside free

/-- Whatever happens, the accounts still hold. -/
theorem step {exchange : Exchange} (sound : Sound capacity accepted returned ended exchange)
    (event : Event) :
    Sound capacity (accepted ++ event.accepted (exchange.step event).1)
      (returned ++ (exchange.step event).1.received)
      (ended || (exchange.step event).1.endsOutput) (exchange.step event).2 := by
  rcases exchange with ⟨session, held⟩
  cases event with
  | request request =>
      rw [Exchange.step]
      split
      · exact sound.gone _
      · next free =>
          apply sound.request request
          cases held <;> simp_all
  | poll =>
      rw [Exchange.step]
      split
      · exact sound.gone _
      · next free =>
          simp only [Bool.or_eq_true, not_or, Option.not_isSome_iff_eq_none] at free
          rcases free with ⟨rfl, staying⟩
          split
          · next closed =>
              simpa [Event.accepted, ExecAnswer.received, ExecAnswer.endsOutput] using
                { sound with closed := fun _ => closed }
          · next goesOn =>
              have rejects : session.rejects = false := by simp_all [rejects]
              simpa [Event.accepted, ExecAnswer.received, ExecAnswer.endsOutput] using
                sound.take rejects
  | settle =>
      rw [Exchange.step]
      cases held with
      | none => exact sound.gone _
      | some received => simpa [Event.accepted] using sound.give

/-- However an exchange goes on, the accounts hold with what happened entered into them. -/
theorem run {exchange : Exchange} (sound : Sound capacity accepted returned ended exchange)
    (events : List Event) :
    Sound capacity (accepted ++ Exchange.accepted (exchange.run events).1)
      (returned ++ Exchange.returned (exchange.run events).1)
      (ended || hasEnded (exchange.run events).1) (exchange.run events).2 := by
  induction events generalizing exchange accepted returned ended with
  | nil => simpa [Exchange.run, Exchange.accepted, Exchange.returned, hasEnded] using sound
  | cons event events ih =>
      have after := ih (sound.step event)
      simpa [Exchange.run, Exchange.accepted, Exchange.returned, hasEnded, Bool.or_assoc] using
        after

/-- Nothing is lost for the consumer of an output that ends for want of senders. -/
theorem deliverable (sound : Sound capacity accepted returned ended ⟨session, none⟩)
    (running : session.cancelled = false) (silent : session.senders.any id = false)
    (staying : session.consumed = false) (intact : ∀ chunk ∈ accepted, chunk.isError = false) :
    session.Deliverable := by
  have balance : accepted = returned ++ session.queue := by
    simpa [taken] using sound.balance
  refine ⟨running, silent, staying, ?_, ?_⟩
  · intro chunk waiting
    exact intact chunk (by simp [balance, waiting])
  · intro closed
    rcases sound.cause closed with cancelled | ⟨chunk, member, fails⟩ | ⟨empty, _⟩
    · exact absurd (cancelled.symm.trans running) (by decide)
    · exact absurd (fails.symm.trans (intact chunk (by simp [balance, member]))) (by decide)
    · exact empty

end Sound

end Exchange
end EntryTree
