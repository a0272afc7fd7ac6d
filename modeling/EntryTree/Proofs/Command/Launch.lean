import Mathlib.Data.List.SplitBy
import EntryTree.Command.Launch

/-!
# What a launched command delivers

The observer of a command that is not cancelled receives on each stream what the processes of the
command wrote to it, complete and in the order of time, in chunks that are received at once; then
the output ends, and the exit code is that of the command. One that cancels the scope after the
first chunk receives nothing else.

A chunk is received before the next one is sent, so the session comes back to the state that is
`Attended`, whatever the queue can hold. What is received at once is a part of a group of emissions
that have their sink and their time in common; that the parts of a group and the groups make up
what was written is all there is to say on how the output is cut.
-/

namespace EntryTree.Command

/-- The chunk that carries what was written. -/
def Write.chunk (write : Write) : Chunk :=
  ⟨write.stream, .ok write.data⟩

/-- The chunks that carry what a run writes. -/
def Run.chunks (run : Run) : List Chunk :=
  (run.writes.filter fun write => !write.data.isEmpty).map Write.chunk

/-- What whoever waits for the exit code of a process is answered. -/
def ProcessStatus.answer (status : ProcessStatus) : ExecAnswer :=
  match status.exitCode with
  | .ok code => .code code
  | .error fault => .failed fault

/-! ### The session of a command -/

/-- A session in which everything that was sent has been received, while more may come. -/
structure Attended (session : ExecSession) : Prop where
  sending : session.hasSender 0 = true
  unfinished : session.closed = false
  staying : session.consumed = false
  drained : session.queue = []
  roomy : 0 < session.capacity

namespace Attended

variable {session : ExecSession}

theorem channel (capacity : Nat) : Attended (ExecSession.channel capacity false) where
  sending := rfl
  unfinished := rfl
  staying := rfl
  drained := rfl
  roomy := Nat.lt_of_lt_of_le Nat.one_pos (Nat.le_max_right ..)

theorem cancel (attended : Attended session) :
    Attended { session with cancelled := true } :=
  { attended with }

theorem send (attended : Attended session) (write : Write) :
    session.step (.send 0 ⟨write.stream, .ok write.data⟩) =
      (.done, { session with queue := [write.chunk] }) := by
  simp [ExecSession.step, ExecSession.rejects, attended.sending, attended.unfinished,
    attended.staying, attended.drained, Nat.ne_of_gt attended.roomy, Write.chunk]

/-- What was sent is received, and the session is what it was before the sending. -/
theorem next (attended : Attended session) (running : session.cancelled = false) (write : Write) :
    ({ session with queue := [write.chunk] } : ExecSession).step .next =
      (.chunk write.chunk, session) := by
  rcases session
  rcases attended with ⟨_, rfl, rfl, rfl, _⟩
  cases running
  rfl

theorem next_of_cancelled (attended : Attended session) (cancelled : session.cancelled = true)
    (write : Write) :
    ({ session with queue := [write.chunk] } : ExecSession).step .next =
      (.finished, { session with queue := [write.chunk], closed := true }) := by
  rcases session
  rcases attended with ⟨_, rfl, rfl, rfl, _⟩
  cases cancelled
  rfl

theorem observeWrites (attended : Attended session) (running : session.cancelled = false)
    {cancellation : Cancellation} (patient : cancellation ≠ .afterFirstChunk)
    (writes : List Write) :
    observeWrites cancellation session writes = (writes.map Write.chunk, session) := by
  induction writes with
  | nil => rfl
  | cons write writes ih =>
      simp only [Command.observeWrites, attended.send, attended.next running, if_neg patient, ih,
        List.map_cons]

/-- The scope is cancelled after the first chunk, so the second one is sent in vain. -/
theorem observeWrites_once (attended : Attended session) (running : session.cancelled = false)
    (write : Write) (writes : List Write) :
    ∃ queue closed, Command.observeWrites .afterFirstChunk session (write :: writes) =
      ([write.chunk], { session with queue, closed, cancelled := true }) := by
  have cancelled : session.step .cancel = (.done, { session with cancelled := true }) := rfl
  simp only [Command.observeWrites, attended.send, attended.next running, if_true, cancelled]
  cases writes with
  | nil => exact ⟨session.queue, session.closed, rfl⟩
  | cons second writes =>
      refine ⟨[second.chunk], true, ?_⟩
      have sent := attended.cancel.send second
      have finished := attended.cancel.next_of_cancelled rfl second
      simp only [Command.observeWrites, sent, finished]

end Attended

theorem observe_of_patient {cancellation : Cancellation}
    (patient : cancellation ≠ .afterFirstChunk) (run : Run) :
    observe run cancellation = ⟨run.chunks, run.status.answer, true⟩ := by
  simp only [observe, (Attended.channel queueCapacity).observeWrites rfl patient,
    ProcessStatus.answer, Run.chunks]
  cases run.status.exitCode <;> rfl

theorem observe_afterFirstChunk (run : Run) :
    observe run .afterFirstChunk =
      match run.chunks with
      | [] => ⟨[], run.status.answer, true⟩
      | chunk :: _ => ⟨[chunk], .failed .cancelled, true⟩ := by
  unfold observe Run.chunks
  cases run.writes.filter fun write => !write.data.isEmpty with
  | nil =>
      simp only [observeWrites, ProcessStatus.answer, List.map_nil]
      cases run.status.exitCode <;> rfl
  | cons write writes =>
      rcases (Attended.channel queueCapacity).observeWrites_once rfl write writes with
        ⟨queue, closed, observed⟩
      simp only [observed, List.map_cons]
      cases closed <;> rfl

/-! ### How output is cut -/

/-- The sink of a stream. -/
def sinkOf : OutputStream → Nat
  | .stdout => Machine.standardOutput
  | .stderr => Machine.standardError

theorem partsWithin_mem {steps : Nat} {data part : List UInt8}
    (member : part ∈ partsWithin steps data) : part ≠ [] ∧ part.length ≤ receivedAtOnce := by
  induction steps generalizing data with
  | zero => cases member
  | succ steps ih =>
      rw [partsWithin] at member
      split at member
      · cases member
      · next filled =>
          rcases List.mem_cons.mp member with rfl | later
          · refine ⟨?_, List.length_take_le ..⟩
            rw [Ne, List.take_eq_nil_iff, not_or]
            exact ⟨by decide, by simpa using filled⟩
          · exact ih later

/-- Every step takes a byte at least, so that steps for all of the data are enough. -/
theorem partsWithin_flatten {steps : Nat} {data : List UInt8} (enough : data.length < steps) :
    (partsWithin steps data).flatten = data := by
  induction steps generalizing data with
  | zero => cases enough
  | succ steps ih =>
      rw [partsWithin]
      split
      · next empty => rw [List.isEmpty_iff.mp empty, List.flatten_nil]
      · next filled =>
          have positive : 0 < data.length := List.length_pos_iff.mpr (by simpa using filled)
          have fewer : (data.drop receivedAtOnce).length < steps := by
            have some : 0 < receivedAtOnce := by decide
            rw [List.length_drop]
            omega
          rw [List.flatten_cons, ih fewer, List.take_append_drop]

/-- The bytes of all texts are those of the texts one after the other. -/
theorem bytesOf_join (texts : List String) :
    bytesOf (String.join texts) = texts.flatMap bytesOf := by
  simp only [bytesOf, String.toList_join, List.map_flatMap]
  rfl

/-- What was received of a stream. -/
def receivedOf (stream : OutputStream) (writes : List Write) : List UInt8 :=
  writes.flatMap fun write => if write.stream = stream then write.data else []

theorem receivedOf_append (stream : OutputStream) (first second : List Write) :
    receivedOf stream (first ++ second) = receivedOf stream first ++ receivedOf stream second :=
  List.flatMap_append

/-- What was written to a sink. -/
def writtenTo (sink : Nat) (emissions : List Emission) : List UInt8 :=
  (emissions.filter (·.sink = sink)).flatMap fun emission => bytesOf emission.data

theorem sinkOf_injective : Function.Injective sinkOf := by
  intro first second same
  cases first <;> cases second <;> first | rfl | cases same

theorem sink_of_mem_group {emissions group : List Emission}
    (watched : ∀ emission ∈ emissions, ∃ stream, emission.sink = sinkOf stream)
    (member : group ∈ emissions.splitBy joins) :
    ∀ emission ∈ group, emission.sink = sinkOf (streamOf group) := by
  have chain : group.IsChain fun first second => first.sink = second.sink := by
    refine (List.isChain_of_mem_splitBy member).imp fun first second together => ?_
    simp only [joins, Bool.and_eq_true, decide_eq_true_eq] at together
    exact together.1
  have alike : (group.map Emission.sink).Pairwise (· = ·) :=
    List.pairwise_map.mpr (List.isChain_iff_pairwise.mp chain)
  intro emission inGroup
  have inEmissions : emission ∈ emissions := by
    rw [← List.flatten_splitBy joins emissions]
    exact List.mem_flatten_of_mem member inGroup
  rcases watched emission inEmissions with ⟨stream, sink⟩
  rw [sink]
  cases stream with
  | stdout =>
      have any : group.any (·.sink = Machine.standardOutput) = true :=
        List.any_eq_true.mpr ⟨emission, inGroup, decide_eq_true sink⟩
      rw [streamOf, if_pos any]
  | stderr =>
      have none : ¬group.any (·.sink = Machine.standardOutput) = true := by
        intro any
        rcases List.any_eq_true.mp any with ⟨other, inGroupToo, out⟩
        have same := alike.forall_of_forall (fun _ _ => rfl) (List.mem_map_of_mem inGroup)
          (List.mem_map_of_mem inGroupToo)
        rw [sink, of_decide_eq_true out] at same
        cases same
      rw [streamOf, if_neg none]

/-- A group is received on the stream of its sink, complete, and nothing of it on the other one. -/
theorem receivedOf_writesOfGroup {group : List Emission}
    (alike : ∀ emission ∈ group, emission.sink = sinkOf (streamOf group)) (stream : OutputStream) :
    receivedOf stream (writesOfGroup group) = writtenTo (sinkOf stream) group := by
  rw [receivedOf, writesOfGroup, List.flatMap_map, writtenTo]
  by_cases same : streamOf group = stream
  · subst same
    have all : group.filter (·.sink = sinkOf (streamOf group)) = group :=
      List.filter_eq_self.mpr fun emission member => decide_eq_true (alike emission member)
    rw [all]
    simp only [if_true, List.flatMap_id', partsWithin_flatten (Nat.lt_succ_self _), bytesOf_join,
      List.flatMap_map]
  · have none : group.filter (·.sink = sinkOf stream) = [] := by
      refine List.filter_eq_nil_iff.mpr fun emission member sink => same ?_
      rw [decide_eq_true_eq, alike emission member] at sink
      exact sinkOf_injective sink
    rw [none]
    simp only [if_neg same, List.flatMap_nil, List.flatMap_eq_nil_iff, implies_true]

theorem receivedOf_writesOf {emissions : List Emission}
    (watched : ∀ emission ∈ emissions, ∃ stream, emission.sink = sinkOf stream)
    (stream : OutputStream) :
    receivedOf stream (writesOf emissions) = writtenTo (sinkOf stream) emissions := by
  have groups : ∀ groups : List (List Emission),
      (∀ group ∈ groups, ∀ emission ∈ group, emission.sink = sinkOf (streamOf group)) →
        receivedOf stream (groups.flatMap writesOfGroup) =
          writtenTo (sinkOf stream) groups.flatten := by
    intro groups alike
    induction groups with
    | nil => rfl
    | cons group groups ih =>
        rcases List.forall_mem_cons.mp alike with ⟨first, others⟩
        rw [List.flatMap_cons, receivedOf_append, receivedOf_writesOfGroup first, ih others,
          List.flatten_cons, writtenTo, writtenTo, writtenTo, List.filter_append,
          List.flatMap_append]
  rw [writesOf, groups _ fun group => sink_of_mem_group watched, List.flatten_splitBy]

theorem writesOf_mem {emissions : List Emission} {write : Write}
    (member : write ∈ writesOf emissions) :
    write.data ≠ [] ∧ write.data.length ≤ receivedAtOnce := by
  rcases List.mem_flatMap.mp member with ⟨group, _, inGroup⟩
  rcases List.mem_map.mp inGroup with ⟨part, inParts, rfl⟩
  exact partsWithin_mem inParts

/-! ### From the machine to the observer -/

theorem Machine.timeline_perm (machine : Machine) :
    (machine.timeline).Perm (machine.emissions.filter fun emission =>
      [standardOutput, standardError].contains emission.sink) :=
  (List.mergeSort_perm _ _).trans (List.reverse_perm _)

theorem Machine.timeline_watched (machine : Machine) :
    ∀ emission ∈ machine.timeline, ∃ stream, emission.sink = sinkOf stream := by
  intro emission member
  have watched := (List.mem_filter.mp (machine.timeline_perm.mem_iff.mp member)).2
  rw [List.contains_iff_mem, List.mem_cons, List.mem_singleton] at watched
  rcases watched with out | err
  · exact ⟨.stdout, out⟩
  · exact ⟨.stderr, err⟩

theorem Emission.isEarlier_trans (first second third : Emission) :
    decide (first.time ≤ second.time) = true → decide (second.time ≤ third.time) = true →
      decide (first.time ≤ third.time) = true := by
  simpa only [decide_eq_true_eq] using Nat.le_trans

theorem Emission.isEarlier_total (first second : Emission) :
    (decide (first.time ≤ second.time) || decide (second.time ≤ first.time)) = true := by
  simpa only [Bool.or_eq_true, decide_eq_true_eq] using Nat.le_total _ _

theorem Machine.timeline_sorted (machine : Machine) :
    machine.timeline.Pairwise fun first second => first.time ≤ second.time :=
  (List.pairwise_mergeSort Emission.isEarlier_trans Emission.isEarlier_total _).imp
    of_decide_eq_true

/-- What was written first comes first, unless its time is later. -/
theorem Machine.timeline_stable (machine : Machine) {first second : Emission}
    (written : [first, second].Sublist machine.emissions.reverse)
    (watched : ∀ emission ∈ [first, second], ∃ stream, emission.sink = sinkOf stream)
    (ordered : first.time ≤ second.time) : [first, second].Sublist machine.timeline := by
  refine List.sublist_mergeSort Emission.isEarlier_trans Emission.isEarlier_total ?_ ?_
  · simpa using ordered
  · rw [← List.filter_reverse]
    have both : [first, second].filter
        (fun emission => [standardOutput, standardError].contains emission.sink) =
          [first, second] := by
      refine List.filter_eq_self.mpr fun emission member => ?_
      rcases watched emission member with ⟨_ | _, sink⟩ <;> rw [sink] <;> rfl
    rw [← both]
    exact written.filter _

/-- A command ran on a machine that had nothing to do before, and left it in another state. -/
def Ran (command : List String) (input : Option (List UInt8)) (status : ProcessStatus)
    (machine : Machine) : Prop :=
  ∃ name arguments path, command.map encode = name :: arguments ∧
    (Machine.initial (ofBytes (input.getD []))).findProgram "/" "/usr/bin:/bin" name = .ok path ∧
    ((levelAt systemDepth).launch (firstInvocation name arguments path input.isSome)).run
      (Machine.initial (ofBytes (input.getD []))) = (status, machine)

theorem start_ok {command : List String} {input : Option (List UInt8)} {run : Run}
    (started : start command input = .ok run) :
    ∃ machine, Ran command input run.status machine ∧ run.writes = writesOf machine.timeline := by
  unfold start at started
  cases encoded : command.map encode with
  | nil =>
      rw [encoded] at started
      cases started
  | cons name arguments =>
      rw [encoded] at started
      dsimp only at started
      split at started
      · cases started
      · split at started
        · cases started
        · split at started
          · cases started
          · next path found =>
              cases started
              exact ⟨_, ⟨name, arguments, path, encoded, found, rfl⟩, rfl⟩

theorem Run.chunks_of_start {command : List String} {input : Option (List UInt8)} {run : Run}
    (started : start command input = .ok run) : run.chunks = run.writes.map Write.chunk := by
  rcases start_ok started with ⟨machine, _, writes⟩
  rw [Run.chunks, List.filter_eq_self.mpr]
  intro write member
  rw [writes] at member
  simpa using (writesOf_mem member).1

theorem Observation.received_eq (observation : Observation) {writes : List Write}
    (chunks : observation.chunks = writes.map Write.chunk) (stream : OutputStream) :
    observation.received stream = receivedOf stream writes := by
  rw [received, chunks, List.flatMap_map]
  rfl

/-- A command is launched unless the scope is cancelled or its program cannot be started. Then what
its processes wrote to a stream is received on it, in chunks of at most the size of a buffer of
which none is empty, and the exit code is that of the command, unless the scope is cancelled after
the first chunk. In every case the output ends. -/
theorem launch_delivers (command : List String) (input : Option (List UInt8)) :
    launch command input .before = .error .cancelled ∧
    (∀ fault, start command input = .error fault →
      ∀ cancellation ≠ .before, launch command input cancellation = .error fault) ∧
    ∀ run, start command input = .ok run →
      ∃ machine whole cut, Ran command input run.status machine ∧
        launch command input .never = .ok whole ∧
        launch command input .afterFirstChunk = .ok cut ∧
        (∀ stream, whole.received stream = writtenTo (sinkOf stream) machine.timeline) ∧
        (∀ chunk ∈ whole.chunks, ∃ data, chunk.payload = .ok data ∧
          0 < data.length ∧ data.length ≤ receivedAtOnce) ∧
        whole.exit = run.status.answer ∧ whole.closed = true ∧
        cut.chunks = whole.chunks.take 1 ∧ cut.closed = true ∧
        cut.exit = if whole.chunks = [] then run.status.answer else .failed .cancelled := by
  refine ⟨rfl, ?_, ?_⟩
  · intro fault failed cancellation later
    rw [launch, if_neg later, failed]
    rfl
  · intro run started
    rcases start_ok started with ⟨machine, ran, writes⟩
    have chunks := Run.chunks_of_start started
    have launched : ∀ cancellation ≠ .before,
        launch command input cancellation = .ok (observe run cancellation) := by
      intro cancellation later
      rw [launch, if_neg later, started]
      rfl
    refine ⟨machine, _, _, ran, launched .never (by decide), launched .afterFirstChunk (by decide),
      ?_⟩
    rw [observe_of_patient (by decide), observe_afterFirstChunk]
    refine ⟨?_, ?_, rfl, rfl, ?_⟩
    · intro stream
      rw [Observation.received_eq _ chunks, writes, receivedOf_writesOf machine.timeline_watched]
    · intro chunk member
      rw [chunks, writes] at member
      rcases List.mem_map.mp member with ⟨write, inWrites, rfl⟩
      rcases writesOf_mem inWrites with ⟨filled, fits⟩
      exact ⟨write.data, rfl, List.length_pos_iff.mpr filled, fits⟩
    · cases run.chunks with
      | nil => exact ⟨rfl, rfl, rfl⟩
      | cons chunk chunks => exact ⟨rfl, rfl, rfl⟩

end EntryTree.Command
