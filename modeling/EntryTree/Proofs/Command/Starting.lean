import EntryTree.Proofs.Command.Launch
import EntryTree.Proofs.Command.Pipes

/-!
# From a program to whoever launched it

What a program of the system does to the machine is all that its launch comes to: it is found under
its name, it is run from the machine that there is first, and what it has written to one of its two
streams when it has ended is received, in order, with the answer that its status gives.
-/

namespace EntryTree.Command

open Machine

/-- What is received of a stream is what was written to it, in the order of the writing. -/
theorem filter_timeline {machine : Machine} (stream : OutputStream)
    (timely : machine.Timely (sinkOf stream)) :
    machine.timeline.filter (·.sink = sinkOf stream) = machine.writings (sinkOf stream) := by
  have narrow : (machine.emissions.filter fun emission =>
      [standardOutput, standardError].contains emission.sink).filter (·.sink = sinkOf stream) =
        machine.emissions.filter (·.sink = sinkOf stream) := by
    rw [List.filter_filter]
    refine List.filter_congr fun emission _ => ?_
    by_cases same : emission.sink = sinkOf stream
    · rw [same]
      cases stream <;> rfl
    · simp [same]
  have watched : (machine.writings (sinkOf stream)).Sublist machine.timeline := by
    refine List.sublist_mergeSort Emission.isEarlier_trans Emission.isEarlier_total ?_ ?_
    · exact timely.ordered.imp fun ordered => decide_eq_true ordered
    · rw [writings, ← narrow]
      exact List.filter_sublist.reverse
  have part := watched.filter (·.sink = sinkOf stream)
  rw [writings, ← List.filter_reverse, List.filter_filter] at part
  simp only [Bool.and_self] at part
  rw [writings, ← List.filter_reverse]
  refine (part.eq_of_length ?_).symm
  rw [List.filter_reverse, List.length_reverse, (machine.timeline_perm.filter _).length_eq, narrow]

/-- The bytes that were written to a stream. -/
theorem writtenTo_timeline {machine : Machine} (stream : OutputStream)
    (timely : machine.Timely (sinkOf stream)) :
    writtenTo (sinkOf stream) machine.timeline =
      bytesOf (String.ofList (machine.written (sinkOf stream))) := by
  rw [writtenTo, filter_timeline stream timely, bytesOf, String.toList_ofList, written,
    List.map_flatMap]
  rfl

theorem timely_of_unwritten {machine : Machine} {sink : Nat}
    (unwritten : machine.writings sink = []) : machine.Timely sink := by
  constructor <;> simp [unwritten]

/-- A program is found under its name in the search path of launched commands. It may depend on how
programs and shells are started. -/
structure Installed (name path : String) (program : Program → Program → Program) : Prop where
  filled : (encode name).isEmpty = false
  clean : '\x00' ∉ (encode name).toList
  plain : '/' ∉ (encode name).toList
  found : (Machine.initial "").programAt "/" ("/usr/bin" ++ "/" ++ encode name) = .ok path
  known : ∀ launch shell, programOf? launch shell (lastStep path) = some (program launch shell)

namespace Installed

variable {name path : String} {program : Program → Program → Program}

theorem findProgram_eq (installed : Installed name path program) (input : String) :
    (Machine.initial input).findProgram "/" "/usr/bin:/bin" (encode name) = .ok path := by
  have places : "/usr/bin:/bin".splitToList (· == ':') = ["/usr/bin", "/bin"] := by decide +kernel
  have first : ("/usr/bin" : String).isEmpty = false := by decide +kernel
  have there : (Machine.initial input).programAt "/" ("/usr/bin" ++ "/" ++ encode name) =
      .ok path := installed.found
  rw [Machine.findProgram, String.contains_char_eq, decide_eq_false installed.plain,
    if_neg Bool.false_ne_true, places]
  simp only [List.map_cons, first, Bool.false_eq_true, if_false, there]
  rfl

/-- The level that the first program runs on. -/
def firstLevel : Level :=
  levelAt 3999

theorem launch_eq (installed : Installed name path program) (arguments : List String)
    (fed : Bool) :
    (levelAt systemDepth).launch (firstInvocation (encode name) arguments path fed) =
      program firstLevel.launch (Shell.program firstLevel)
        (firstInvocation (encode name) arguments path fed) := by
  show (programOf? firstLevel.launch (Shell.program firstLevel) (lastStep path)).getD _ _ = _
  rw [installed.known, Option.getD_some]

theorem start_eq (installed : Installed name path program) {arguments : List String}
    (clean : ∀ argument ∈ arguments, '\x00' ∉ (encode argument).toList)
    (input : Option (List UInt8)) {status : ProcessStatus} {after : Machine}
    (ran : (program firstLevel.launch (Shell.program firstLevel)
        (firstInvocation (encode name) (arguments.map encode) path input.isSome)).run
      (initial (ofBytes (input.getD []))) = (status, after)) :
    start (name :: arguments) input = .ok ⟨writesOf after.timeline, status⟩ := by
  have clean : (encode name :: arguments.map encode).any (·.contains '\x00') = false := by
    simp only [String.contains_char_eq, List.any_eq_false, decide_eq_true_eq]
    rw [List.forall_mem_cons, List.forall_mem_map]
    exact ⟨installed.clean, clean⟩
  have search : (launchEnvironment.lookup "PATH").getD "" = "/usr/bin:/bin" := by decide +kernel
  unfold start
  simp only [List.map_cons, clean, installed.filled, Bool.false_eq_true, if_false, search,
    installed.findProgram_eq, installed.launch_eq, ran]

/-- Whoever launches a program receives what it has written. -/
theorem launch_received (installed : Installed name path program) {arguments : List String}
    (clean : ∀ argument ∈ arguments, '\x00' ∉ (encode argument).toList)
    (input : Option (List UInt8)) {status : ProcessStatus} {after : Machine}
    (ran : (program firstLevel.launch (Shell.program firstLevel)
        (firstInvocation (encode name) (arguments.map encode) path input.isSome)).run
      (initial (ofBytes (input.getD []))) = (status, after))
    (timely : ∀ stream, after.Timely (sinkOf stream)) :
    ∃ observation, launch (name :: arguments) input .never = .ok observation ∧
      (∀ stream, observation.received stream =
        bytesOf (String.ofList (after.written (sinkOf stream)))) ∧
      observation.exit = status.answer ∧ observation.closed = true := by
  have started := installed.start_eq clean input ran
  have chunks := Run.chunks_of_start started
  refine ⟨observe ⟨writesOf after.timeline, status⟩ .never, ?_, fun stream => ?_, ?_, ?_⟩
  · rw [launch, if_neg (by decide), started]
    rfl
  · rw [observe_of_patient (by decide), Observation.received_eq _ chunks,
      receivedOf_writesOf after.timeline_watched, writtenTo_timeline stream (timely stream)]
  · rw [observe_of_patient (by decide)]
  · rw [observe_of_patient (by decide)]

/-- What a program has written to its standard output, where nothing was written before it. -/
theorem launch_printed (installed : Installed name path program) {arguments : List String}
    (clean : ∀ argument ∈ arguments, '\x00' ∉ (encode argument).toList)
    (input : Option (List UInt8)) {data : List Char} {before printed after : Machine}
    (ran : (program firstLevel.launch (Shell.program firstLevel)
        (firstInvocation (encode name) (arguments.map encode) path input.isSome)).run
      (initial (ofBytes (input.getD []))) = (.exited 0, after))
    (silent : before.emissions = []) (puts : Puts (sinkOf .stdout) data before printed)
    (emissions : after.emissions = printed.emissions) (clock : after.clock = printed.clock) :
    ∃ observation, launch (name :: arguments) input .never = .ok observation ∧
      observation.received .stdout = bytesOf (String.ofList data) ∧
      observation.received .stderr = [] ∧ observation.exit = .code 0 ∧
      observation.closed = true := by
  have same : ∀ sink, after.writings sink = printed.writings sink := by
    intro sink
    rw [writings, writings, emissions]
  have nothing : ∀ sink, before.writings sink = [] := by
    intro sink
    rw [writings, silent]
    rfl
  have written : after.written (sinkOf .stdout) = data := by
    rw [Machine.written, same]
    refine puts.written.trans ?_
    rw [Machine.written, nothing]
    rfl
  have unwritten : after.writings (sinkOf .stderr) = [] := by
    rw [same, puts.others _ (by decide), nothing]
  have timely : ∀ stream, after.Timely (sinkOf stream) := by
    intro stream
    cases stream with
    | stdout =>
        rcases puts.timely (timely_of_unwritten (nothing _)) with ⟨ordered, past⟩
        refine ⟨?_, ?_⟩
        · rw [same]
          exact ordered
        · rw [same, clock]
          exact past
    | stderr => exact timely_of_unwritten unwritten
  rcases installed.launch_received clean input ran timely with
    ⟨observation, launched, received, exit, closed⟩
  refine ⟨observation, launched, ?_, ?_, exit, closed⟩
  · rw [received, written]
  · rw [received, Machine.written, unwritten]
    rfl

end Installed
end EntryTree.Command
