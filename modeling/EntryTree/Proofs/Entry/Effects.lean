import EntryTree.Action.Registry
import EntryTree.Entry.Operation
import EntryTree.Scope

/-!
# What an entry remembers

An entry is asked for one thing after the other, each in a scope that may be cancelled. Of the
operations that succeeded it remembers the data that was saved last, the signals, and whether it was
deleted. An operation that fails, however far it came, leaves no trace.

The one operation that takes several polls is saving. What its feed brings is collected apart, so
that the content is replaced only by a whole feed. What one operation does is said by
`perform_cases`; a run of them remembers what the successful ones among them do, one after the
other.
-/

namespace EntryTree

/-! ## Feeds -/

namespace Feed

/-- All bytes of a feed. -/
def bytes : Feed → List UInt8
  | .last bytes => bytes
  | .broken bytes _ => bytes
  | .more bytes _ rest => bytes ++ rest.bytes

/-- Whether a feed comes to its end, and the scope is not cancelled before. -/
def Completes : Feed → Prop
  | .last _ => True
  | .broken .. => False
  | .more _ cancels rest => cancels = false ∧ rest.Completes

theorem collect_eq_ok_iff {feed : Feed} {cancelled : Bool} {before data : List UInt8} :
    feed.collect cancelled before = .ok data ↔
      cancelled = false ∧ feed.Completes ∧ data = before ++ feed.bytes := by
  induction feed generalizing cancelled before with
  | last bytes => cases cancelled <;> simp [collect, Completes, Feed.bytes, eq_comm]
  | broken bytes message => cases cancelled <;> simp [collect, Completes]
  | more bytes cancels rest ih =>
      cases cancelled <;> simp [collect, Completes, Feed.bytes, ih, and_assoc]

theorem exists_collect_iff (feed : Feed) (cancelled : Bool) (before : List UInt8) :
    (∃ data, feed.collect cancelled before = .ok data) ↔ cancelled = false ∧ feed.Completes := by
  simp [collect_eq_ok_iff]

theorem collect_cancelled (feed : Feed) (before : List UInt8) :
    feed.collect true before = .error .cancelled := by
  cases feed <;> rfl

/-- A feed as a work that collects it. -/
def work (before : List UInt8) : Feed → Work (List UInt8)
  | .last bytes => [{ outcome := some (.ok (before ++ bytes)) }]
  | .broken _ message => [{ outcome := some (.error (.io message)) }]
  | .more bytes cancels rest => { cancels } :: rest.work (before ++ bytes)

/-- To collect a feed is to run it in the scope until it has an outcome. -/
theorem run_work {scope : Scope} (marked : scope.lineage ≠ []) (feed : Feed)
    (state : Cancellations) (before : List UInt8) {polls : Nat}
    (enough : (feed.work before).length ≤ polls) :
    (Work.run state scope polls (feed.work before)).1 =
      some (feed.collect (state.isCancelled scope) before) := by
  induction feed generalizing state before polls with
  | last bytes =>
      cases polls with
      | zero => cases enough
      | succ polls => cases here : state.isCancelled scope <;> simp [Work.run, work, collect, here]
  | broken bytes message =>
      cases polls with
      | zero => cases enough
      | succ polls => cases here : state.isCancelled scope <;> simp [Work.run, work, collect, here]
  | more bytes cancels rest ih =>
      cases polls with
      | zero => cases enough
      | succ polls =>
          have fewer : (rest.work (before ++ bytes)).length ≤ polls :=
            Nat.le_of_succ_le_succ enough
          cases here : state.isCancelled scope with
          | true => simp [Work.run, collect, here]
          | false =>
              cases cancels with
              | false => simp [Work.run, work, collect, here, ih state _ fewer]
              | true =>
                  have cancelled : (state.cancel scope).isCancelled scope = true := by
                    cases lineage : scope.lineage with
                    | nil => contradiction
                    | cons mark marks =>
                        simp [Cancellations.isCancelled, Cancellations.cancel, lineage]
                  simp [Work.run, work, collect, here, ih _ _ fewer, cancelled]

end Feed

/-! ## One operation -/

namespace Operation

/-- What a save brings. -/
def data? : Operation → Option (List UInt8)
  | .saveFrom feed => some feed.bytes
  | _ => none

/-- The signal that is sent. -/
def sent? : Operation → Option String
  | .signal name => some name
  | _ => none

/-- Whether an operation comes to its end where the scope is not cancelled before it begins. -/
def Completes : Operation → Prop
  | .saveFrom feed => feed.Completes
  | _ => True

/-- What an entry remembers after an operation that succeeded. -/
def remember (effects : Effects) : Operation → Effects
  | .saveFrom feed => { effects with saved := feed.bytes }
  | .delete => { effects with deleted := true }
  | .signal name => { effects with signals := effects.signals ++ [name] }
  | _ => effects

end Operation

namespace Entry

variable {entry : Entry} {cancelled : Bool} {effects : Effects} {operation : Operation}

theorem perform_saveFrom (entry : Entry) (cancelled : Bool) (effects : Effects) (feed : Feed) :
    entry.perform cancelled effects (.saveFrom feed) =
      if entry.profile.writable then
        match feed.collect cancelled [] with
        | .ok data => (.ok .done, { effects with saved := data })
        | .error fault => (.error fault, effects)
      else (.error (entry.lacking (.saveFrom feed)), effects) := by
  rw [perform, serve]
  cases entry.profile.writable with
  | false => rfl
  | true => cases feed.collect cancelled [] <;> rfl

theorem perform_delete (entry : Entry) (cancelled : Bool) (effects : Effects) :
    entry.perform cancelled effects .delete =
      if cancelled then (.error .cancelled, effects)
      else if entry.profile.deletable then (.ok .done, { effects with deleted := true })
      else (.error (entry.lacking .delete), effects) := by
  rw [perform, serve]
  cases cancelled <;> cases entry.profile.deletable <;> rfl

theorem perform_signal (entry : Entry) (cancelled : Bool) (effects : Effects) (name : String) :
    entry.perform cancelled effects (.signal name) =
      if cancelled then (.error .cancelled, effects)
      else if entry.profile.signalable then
        (.ok .done, { effects with signals := effects.signals ++ [name] })
      else (.error (entry.lacking (.signal name)), effects) := by
  rw [perform, serve]
  cases cancelled <;> cases entry.profile.signalable <;> rfl

theorem perform_cancelled (available : entry.satisfies operation.capability = true)
    (effects : Effects) :
    entry.perform true effects operation = (.error .cancelled, effects) := by
  cases operation with
  | saveFrom feed =>
      have writable : entry.profile.writable = true := available
      rw [perform_saveFrom, if_pos writable, feed.collect_cancelled]
  | _ => rfl

theorem exists_fault_of_cancelled (entry : Entry) (effects : Effects) (operation : Operation) :
    ∃ fault, entry.perform true effects operation = (.error fault, effects) := by
  cases operation with
  | saveFrom feed =>
      rw [perform_saveFrom, feed.collect_cancelled]
      split
      · exact ⟨_, rfl⟩
      · exact ⟨_, rfl⟩
  | _ => exact ⟨_, rfl⟩

/-- An operation fails and leaves what the entry remembers, or it comes to its end in a scope that
was not cancelled, and is remembered. -/
theorem perform_cases (entry : Entry) (cancelled : Bool) (effects : Effects)
    (operation : Operation) :
    (∃ fault, entry.perform cancelled effects operation = (.error fault, effects)) ∨
    (cancelled = false ∧ operation.Completes ∧ ∃ reply,
      entry.perform cancelled effects operation = (.ok reply, operation.remember effects)) := by
  cases cancelled with
  | true => exact .inl (exists_fault_of_cancelled entry effects operation)
  | false =>
      cases operation with
      | list =>
          rw [perform, serve]
          rcases entry.group? with _ | ⟨⟨_, _ | fault⟩, children⟩
          · exact .inl ⟨_, rfl⟩
          · exact .inr ⟨rfl, trivial, _, rfl⟩
          · exact .inl ⟨fault, rfl⟩
      | metadata =>
          rw [perform, serve]
          rcases entry.profile.metadata with _ | ⟨_, fault | fields⟩
          · exact .inl ⟨_, rfl⟩
          · exact .inl ⟨fault, rfl⟩
          · exact .inr ⟨rfl, trivial, _, rfl⟩
      | openContent | readBlock size offset =>
          rw [perform, serve]
          rcases entry.profile.content with _ | content
          · exact .inl ⟨_, rfl⟩
          · exact .inr ⟨rfl, trivial, _, rfl⟩
      | exec =>
          rw [perform, serve]
          rcases entry.profile.execution with _ | execution
          · exact .inl ⟨_, rfl⟩
          · exact .inr ⟨rfl, trivial, _, rfl⟩
      | stream =>
          rw [perform, serve]
          rcases entry.profile.stream with _ | bytes
          · exact .inl ⟨_, rfl⟩
          · exact .inr ⟨rfl, trivial, _, rfl⟩
      | saveFrom feed =>
          rw [perform_saveFrom]
          split
          · cases collected : feed.collect false [] with
            | error fault => exact .inl ⟨fault, rfl⟩
            | ok data =>
                rcases Feed.collect_eq_ok_iff.mp collected with ⟨_, completes, rfl⟩
                exact .inr ⟨rfl, completes, .done, rfl⟩
          · exact .inl ⟨_, rfl⟩
      | delete =>
          rw [perform_delete, if_neg Bool.false_ne_true]
          split
          · exact .inr ⟨rfl, trivial, .done, rfl⟩
          · exact .inl ⟨_, rfl⟩
      | signal name =>
          rw [perform_signal, if_neg Bool.false_ne_true]
          split
          · exact .inr ⟨rfl, trivial, .done, rfl⟩
          · exact .inl ⟨_, rfl⟩

theorem succeeds_iff (remembered : operation.capability ∈ [.writable, .deletable, .signalable]) :
    (∃ reply, (entry.perform cancelled effects operation).1 = .ok reply) ↔
      entry.satisfies operation.capability = true ∧ cancelled = false ∧ operation.Completes := by
  cases operation with
  | saveFrom feed =>
      change _ ↔ entry.profile.writable = true ∧ cancelled = false ∧ feed.Completes
      rw [perform_saveFrom, ← feed.exists_collect_iff cancelled []]
      split
      · next writable => cases feed.collect cancelled [] <;> simp [writable]
      · next unwritable => simp [unwritable]
  | delete =>
      rw [perform_delete]
      change _ ↔ entry.profile.deletable = true ∧ cancelled = false ∧ True
      cases cancelled <;> cases entry.profile.deletable <;> simp
  | signal name =>
      rw [perform_signal]
      change _ ↔ entry.profile.signalable = true ∧ cancelled = false ∧ True
      cases cancelled <;> cases entry.profile.signalable <;> simp
  | _ => simp [Operation.capability] at remembered

end Entry

/-! ## One operation after the other -/

/-- An operation and whether the scope is cancelled in which it is asked for. -/
structure Call where
  cancelled : Bool
  operation : Operation

/-- An entry in use: what it is and has, and what it remembers. -/
structure Live where
  entry : Entry
  effects : Effects := {}

namespace Live

/-- Makes a call. -/
def make (live : Live) (call : Call) : Except Fault Reply × Live :=
  let (outcome, effects) := live.entry.perform call.cancelled live.effects call.operation
  (outcome, { live with effects })

/-- Makes calls one after the other: each with its outcome, and the entry after them all. -/
def run (live : Live) : List Call → List (Call × Except Fault Reply) × Live
  | [] => ([], live)
  | call :: calls =>
    let (outcome, next) := live.make call
    let (history, last) := next.run calls
    ((call, outcome) :: history, last)

end Live

/-- The operation of a call that succeeded. -/
def succeeded? : Call × Except Fault Reply → Option Operation
  | (call, .ok _) => some call.operation
  | (_, .error _) => none

section Remembering

variable (effects : Effects) (operations : List Operation)

theorem saved_foldl_remember :
    (operations.foldl Operation.remember effects).saved =
      (operations.filterMap Operation.data?).getLast?.getD effects.saved := by
  induction operations generalizing effects with
  | nil => rfl
  | cons operation operations ih =>
      rw [List.foldl_cons, ih, List.filterMap_cons]
      cases operation with
      | saveFrom feed => simp [Operation.data?, Operation.remember, List.getLast?_cons]
      | _ => rfl

theorem signals_foldl_remember :
    (operations.foldl Operation.remember effects).signals =
      effects.signals ++ operations.filterMap Operation.sent? := by
  induction operations generalizing effects with
  | nil => exact (List.append_nil _).symm
  | cons operation operations ih =>
      rw [List.foldl_cons, ih, List.filterMap_cons]
      cases operation with
      | signal name => simp [Operation.sent?, Operation.remember]
      | _ => rfl

theorem deleted_foldl_remember :
    (operations.foldl Operation.remember effects).deleted = true ↔
      effects.deleted = true ∨ .delete ∈ operations := by
  induction operations generalizing effects with
  | nil => simp
  | cons operation operations ih =>
      rw [List.foldl_cons, ih, List.mem_cons]
      cases operation <;> simp [Operation.remember]

end Remembering

namespace Live

theorem run_cons (live : Live) (call : Call) (calls : List Call) :
    live.run (call :: calls) = ((call, (live.make call).1) :: ((live.make call).2.run calls).1,
      ((live.make call).2.run calls).2) :=
  rfl

theorem entry_run (live : Live) (calls : List Call) : (live.run calls).2.entry = live.entry := by
  induction calls generalizing live with
  | nil => rfl
  | cons call calls ih => exact ih (live.make call).2

/-- After a run an entry remembers what the successful operations of the run did, one after the
other. -/
theorem effects_run (live : Live) (calls : List Call) :
    (live.run calls).2.effects =
      ((live.run calls).1.filterMap succeeded?).foldl Operation.remember live.effects := by
  induction calls generalizing live with
  | nil => rfl
  | cons call calls ih =>
      -- A call that failed is left out of the history and has changed nothing.
      have rest := ih (live.make call).2
      rcases live.entry.perform_cases call.cancelled live.effects call.operation with
        ⟨fault, failed⟩ | ⟨_, _, reply, answered⟩
      · have next : live.make call = (.error fault, live) := by rw [Live.make, failed]
        rw [next] at rest
        rw [run_cons, next]
        exact rest
      · have next : live.make call =
            (.ok reply, { live with effects := call.operation.remember live.effects }) := by
          rw [Live.make, answered]
        rw [next] at rest
        rw [run_cons, next]
        exact rest

theorem call_of_mem_run {live : Live} {calls : List Call} {call : Call}
    {outcome : Except Fault Reply} (member : (call, outcome) ∈ (live.run calls).1) :
    ∃ effects, outcome = (live.entry.perform call.cancelled effects call.operation).1 := by
  induction calls generalizing live with
  | nil => cases member
  | cons first calls ih =>
      rw [run_cons, List.mem_cons] at member
      rcases member with same | member
      · rcases Prod.mk.inj same with ⟨rfl, rfl⟩
        exact ⟨live.effects, rfl⟩
      · rcases ih member with ⟨effects, answered⟩
        exact ⟨effects, answered⟩

end Live

/-- What an entry remembers after any calls, each of them in a scope that is cancelled or is not:
the data of the last save that succeeded, the signals that were sent successfully, in their order,
and whether a deletion succeeded. A call of an operation that the entry provides fails as cancelled
in a cancelled scope. One that is to be remembered succeeds just where the entry provides it, the
scope is not cancelled, and a feed comes to its end. A call that fails changes nothing, wherever it
is made, and no call changes what the entry is called and has, what it satisfies or which actions it
serves. -/
theorem effects_of_calls (entry : Entry) (calls : List Call) :
    let history := (Live.run ⟨entry, {}⟩ calls).1
    let after := (Live.run ⟨entry, {}⟩ calls).2
    let done := history.filterMap succeeded?
    after.effects.saved = (done.filterMap Operation.data?).getLast?.getD [] ∧
    after.effects.signals = done.filterMap Operation.sent? ∧
    (after.effects.deleted = true ↔ .delete ∈ done) ∧
    (∀ call outcome, (call, outcome) ∈ history →
      (call.cancelled = true → entry.satisfies call.operation.capability = true →
        outcome = .error .cancelled) ∧
      (call.operation.capability ∈ [.writable, .deletable, .signalable] →
        ((∃ reply, outcome = .ok reply) ↔ entry.satisfies call.operation.capability = true ∧
          call.cancelled = false ∧ call.operation.Completes))) ∧
    (∀ call fault, (after.make call).1 = .error fault → (after.make call).2 = after) ∧
    after.entry.name = entry.name ∧ after.entry.attributes = entry.attributes ∧
    after.entry.capabilities = entry.capabilities ∧
    ∀ registry : ActionRegistry, registry.supported after.entry = registry.supported entry := by
  intro history after done
  have same : after.entry = entry := Live.entry_run ⟨entry, {}⟩ calls
  have effects : after.effects = done.foldl Operation.remember {} :=
    Live.effects_run ⟨entry, {}⟩ calls
  rw [same, effects, saved_foldl_remember, signals_foldl_remember, deleted_foldl_remember]
  refine ⟨rfl, rfl, by simp, ?_, ?_, rfl, rfl, rfl, fun _ => rfl⟩
  · intro call outcome member
    rcases Live.call_of_mem_run member with ⟨effects, rfl⟩
    refine ⟨fun cancelled available => ?_, Entry.succeeds_iff⟩
    rw [cancelled, Entry.perform_cancelled available]
  · intro call fault failed
    rcases after.entry.perform_cases call.cancelled after.effects call.operation with
      ⟨fault, performed⟩ | ⟨_, _, reply, performed⟩
    · rw [Live.make, performed]
    · rw [Live.make, performed] at failed
      cases failed

/-- Of three saves, one is cancelled and one breaks off behind its first bytes. Of three signals,
one is sent in a cancelled scope. Nothing can be deleted. -/
theorem effects_of_calls_process :
    let entry : Entry := .leaf { name := "process", writable := true, signalable := true }
    let calls : List Call :=
      [⟨false, .saveFrom (.more [1] false (.last [2]))⟩,
        ⟨false, .saveFrom (.more [3] true (.last [4]))⟩,
        ⟨false, .saveFrom (.more [5] false (.broken [6] "reset"))⟩,
        ⟨false, .signal "HUP"⟩, ⟨true, .signal "INT"⟩, ⟨false, .signal "TERM"⟩, ⟨false, .delete⟩]
    let history := (Live.run ⟨entry, {}⟩ calls).1
    let after := (Live.run ⟨entry, {}⟩ calls).2
    after.effects.saved = [1, 2] ∧ after.effects.signals = ["HUP", "TERM"] ∧
    after.effects.deleted = false ∧ after.entry.capabilities = [.writable, .signalable] ∧
    (∀ outcome, (⟨true, .signal "INT"⟩, outcome) ∈ history → outcome = .error .cancelled) ∧
    (after.make ⟨false, .saveFrom (.broken [7] "reset")⟩).2 = after := by
  intro entry calls history after
  rcases effects_of_calls entry calls with
    ⟨saved, signals, deleted, answers, unchanged, _, _, capabilities, _⟩
  refine ⟨saved, signals, ?_, capabilities, ?_, ?_⟩
  · have never : Operation.delete ∉ [Operation.saveFrom (.more [1] false (.last [2])),
        .signal "HUP", .signal "TERM"] := by simp
    exact Bool.eq_false_iff.mpr (mt deleted.mp never)
  · intro outcome member
    exact (answers _ outcome member).1 rfl rfl
  · exact unchanged _ (.io "reset") rfl

end EntryTree
