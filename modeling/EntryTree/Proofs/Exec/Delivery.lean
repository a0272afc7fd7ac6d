import EntryTree.Proofs.Exec.Accounts

/-!
# The delivery of output

The consumer of an output gets the chunks that were accepted, each once and in the order in which
they were accepted, up to the end of the output. The output ends in three ways: after a chunk with a
fault, with the scope, or when nobody is left to send; only in the last case has everything been
delivered.
-/

namespace EntryTree.Exchange

open ExecSession

variable {capacity : Nat} {accepted returned : List Chunk} {ended : Bool} {session : ExecSession}

/-! ## The end of the output -/

/-- A consumer that acts upon what it found leaves the handles alone. -/
theorem step_settle (exchange : Exchange) :
    ∃ answer session, exchange.step .settle = (answer, ⟨session, none⟩) ∧
      session.cancelled = exchange.session.cancelled ∧
      session.senders = exchange.session.senders ∧
      session.consumed = exchange.session.consumed := by
  rcases exchange with ⟨session, _ | received⟩
  · exact ⟨.gone, session, rfl, rfl, rfl, rfl⟩
  · exact ⟨received.answer, session.settle received, rfl, by simp, by simp, by simp⟩

theorem step_collect_of_deliverable (deliverable : session.Deliverable) :
    ((⟨session, none⟩ : Exchange).step (.request .collect)).1 = .chunks session.queue := by
  have all := deliverable.drain (Nat.le_refl _)
  rcases drained : session.drain session.queue.length with ⟨chunks, after⟩
  obtain rfl : chunks = some session.queue := by simpa [drained] using all
  simp [Exchange.step, ExecSession.step, deliverable.staying, drained]

/-- Asking for the next chunk over and over brings all that waits. -/
theorem run_next_of_deliverable (deliverable : session.Deliverable) (steps : Nat) :
    Exchange.returned ((⟨session, none⟩ : Exchange).run
        (List.replicate steps (.request .next))).1 = session.queue.take steps ∧
      (session.queue.length < steps → hasEnded ((⟨session, none⟩ : Exchange).run
        (List.replicate steps (.request .next))).1 = true) := by
  induction steps generalizing session with
  | zero => simp [Exchange.run, Exchange.returned]
  | succ steps ih =>
      have asked : (⟨session, none⟩ : Exchange).step (.request .next) =
          (session.receive.1.answer, ⟨session.receive.2, none⟩) := by
        simp [Exchange.step, ExecSession.step, deliverable.staying]
      rw [List.replicate_succ, Exchange.run, asked]
      cases waiting : session.queue with
      | nil =>
          rcases deliverable.receive_nil waiting with ⟨received, left⟩
          rcases ih left with ⟨others, _⟩
          have empty : session.close.queue = [] := waiting
          rw [received]
          rw [empty, List.take_nil] at others
          constructor
          · simpa [Exchange.returned, Received.answer, ExecAnswer.received] using others
          · simp [hasEnded, Received.answer, ExecAnswer.endsOutput]
      | cons chunk queue =>
          rcases deliverable.receive_cons waiting with ⟨received, left⟩
          rcases ih left with ⟨others, ended⟩
          rw [received]
          constructor
          · simpa [Exchange.returned, Received.answer, ExecAnswer.received] using others
          · intro enough
            simp only [hasEnded, List.any_cons, Bool.or_eq_true]
            exact .inr (ended (Nat.lt_of_succ_lt_succ enough))

namespace Sound

variable {exchange : Exchange}

/-- A send is accepted as long as fewer chunks wait than fit the queue. -/
theorem accepts {sender : Nat} {chunk : Chunk}
    (sound : Sound capacity accepted returned ended exchange)
    (has : exchange.session.hasSender sender = true) (goesOn : exchange.session.rejects = false)
    (fewer : accepted.length < (returned ++ exchange.taken).length + max capacity 1) :
    (exchange.step (.request (.send sender chunk))).1 = .done := by
  have room : ¬exchange.session.capacity ≤ exchange.session.queue.length := by
    rw [sound.balance, List.length_append] at fewer
    rw [sound.capacity_eq]
    omega
  simp [Exchange.step, ExecRequest.isOfConsumer, ExecSession.step, has, goesOn, room]

/-- The consumer of an output that ends for want of senders gets every accepted chunk by asking for
the next one often enough, after it has returned what it already found. -/
theorem drained (sound : Sound capacity accepted returned ended exchange)
    (running : exchange.session.cancelled = false)
    (silent : exchange.session.senders.any id = false)
    (staying : exchange.session.consumed = false)
    (intact : ∀ chunk ∈ accepted, chunk.isError = false) {steps : Nat}
    (enough : accepted.length < steps) :
    ∃ rest now, exchange.run (.settle :: List.replicate steps (.request .next)) = (rest, now) ∧
      returned ++ Exchange.returned rest = accepted ∧ hasEnded rest = true := by
  rcases exchange.step_settle with ⟨answer, session, settled, cancelled, senders, consumed⟩
  have after := sound.step .settle
  rw [settled] at after
  have deliverable := after.deliverable (cancelled.trans running) (by rw [senders, silent])
    (consumed.trans staying) (by simpa [Event.accepted] using intact)
  have balance : accepted = returned ++ (answer.received ++ session.queue) := by
    simpa [Event.accepted, taken] using after.balance
  have fewer : session.queue.length < steps := by
    rw [balance, List.length_append, List.length_append] at enough
    omega
  rcases run_next_of_deliverable deliverable steps with ⟨brought, ended⟩
  rw [List.take_of_length_le (Nat.le_of_lt fewer)] at brought
  simp only [Exchange.run, settled]
  refine ⟨_, _, rfl, ?_, ?_⟩
  · rw [balance, ← brought]
    rfl
  · rw [hasEnded, List.any_cons, Bool.or_eq_true]
    exact .inr (ended fewer)

/-- Or it gets them all at once. -/
theorem collected (sound : Sound capacity accepted returned ended ⟨session, none⟩)
    (running : session.cancelled = false) (silent : session.senders.any id = false)
    (staying : session.consumed = false)
    (intact : ∀ chunk ∈ accepted, chunk.isError = false) :
    ∃ left, ((⟨session, none⟩ : Exchange).step (.request .collect)).1 = .chunks left ∧
      returned ++ left = accepted := by
  have deliverable := sound.deliverable running silent staying intact
  refine ⟨session.queue, step_collect_of_deliverable deliverable, ?_⟩
  simpa [taken] using sound.balance.symm

end Sound

end EntryTree.Exchange
