import Mathlib.Data.List.TakeWhile
import EntryTree.Command.Program.Stream

/-!
# Reading streams

What is left of a stream is the characters of its supplies one after the other. Whoever reads takes
characters off the front of it: all of them, a number of them, or those up to the end of a line. It
may have to wait for them, and nothing else on the machine changes. What is written to a pipe is
what can be read of it, in the order of time.

The invariant is `Takes`, which composes; the loops that read block by block are inductions on their
steps with it.
-/

namespace EntryTree.Command

/-- The characters of supplies. -/
def charactersOf (supplies : List Supply) : List Char :=
  supplies.flatMap (·.data.toList)

@[simp]
theorem charactersOf_nil : charactersOf [] = [] :=
  rfl

@[simp]
theorem charactersOf_cons (supply : Supply) (supplies : List Supply) :
    charactersOf (supply :: supplies) = supply.data.toList ++ charactersOf supplies :=
  rfl

theorem toList_join_data (supplies : List Supply) :
    (String.join (supplies.map (·.data))).toList = charactersOf supplies := by
  rw [String.toList_join, List.flatMap_map, charactersOf]

namespace Machine

/-- What is left to read of a stream. -/
def remaining (machine : Machine) (source : Nat) : List Char :=
  charactersOf ((machine.sources.lookup source).getD [])

/-- Characters are taken off the front of a stream. Time may pass, and nothing else changes. -/
structure Takes (source : Nat) (taken : List Char) (before after : Machine) : Prop where
  remaining : taken ++ after.remaining source = before.remaining source
  others : ∀ other ≠ source, after.remaining other = before.remaining other
  later : before.clock ≤ after.clock
  unchanged : after = { before with sources := after.sources, clock := after.clock }

namespace Takes

variable {source : Nat} {taken more : List Char} {before between after : Machine}

theorem refl (source : Nat) (machine : Machine) : Takes source [] machine machine where
  remaining := rfl
  others _ _ := rfl
  later := Nat.le_refl _
  unchanged := rfl

theorem trans (first : Takes source taken before between)
    (second : Takes source more between after) : Takes source (taken ++ more) before after where
  remaining := by rw [List.append_assoc, second.remaining, first.remaining]
  others other distinct := (second.others other distinct).trans (first.others other distinct)
  later := Nat.le_trans first.later second.later
  unchanged := by
    rw [second.unchanged, first.unchanged]

theorem wait (time : Nat) (takes : Takes source taken before after) :
    Takes source taken before { after with clock := max after.clock time } where
  remaining := takes.remaining
  others := takes.others
  later := Nat.le_trans takes.later (Nat.le_max_left ..)
  unchanged := by
    rw [takes.unchanged]

end Takes

theorem lookup_setRest (machine : Machine) (source other : Nat) (supplies : List Supply) :
    ((setRest source supplies).run machine).2.sources.lookup other =
      if other = source then (machine.sources.lookup other).map fun _ => supplies
      else machine.sources.lookup other := by
  show List.lookup other (machine.sources.map _) = _
  induction machine.sources with
  | nil => simp
  | cons entry sources ih =>
      rcases entry with ⟨number, old⟩
      rw [List.map_cons]
      by_cases chosen : number = source
      · simp only [chosen, if_true, List.lookup_cons, ih]
        by_cases same : other = source
        · simp [same]
        · simp [same, beq_false_of_ne same]
      · simp only [chosen, if_false, List.lookup_cons, ih]
        by_cases same : other = number
        · simp [same, chosen]
        · simp [beq_false_of_ne same]

/-- What is set to be left is the rest of what was left. -/
theorem takes_setRest {machine : Machine} {source : Nat} {taken : List Char}
    {supplies : List Supply} (split : taken ++ charactersOf supplies = machine.remaining source) :
    Takes source taken machine ((setRest source supplies).run machine).2 where
  remaining := by
    rw [← split, remaining, lookup_setRest, if_pos rfl]
    cases found : machine.sources.lookup source with
    | none =>
        rw [remaining, found] at split
        rw [(List.append_eq_nil_iff.mp split).2]
        rfl
    | some old => rfl
  others other distinct := by rw [remaining, lookup_setRest, if_neg distinct, remaining]
  later := Nat.le_refl _
  unchanged := rfl

/-! ### Readers -/

/-- Whoever waits for all supplies lets the time pass. -/
theorem run_waitAll (supplies : List Supply) (machine : Machine) :
    (forIn supplies PUnit.unit fun supply _ => do
      waitUntil supply.time
      return ForInStep.yield PUnit.unit : Act PUnit).run machine =
        (PUnit.unit, { machine with
          clock := supplies.foldl (fun clock supply => max clock supply.time) machine.clock }) := by
  induction supplies generalizing machine with
  | nil => rfl
  | cons supply supplies ih =>
      rw [List.forIn_cons]
      exact ih { machine with clock := max machine.clock supply.time }

theorem Takes.waitAll {source : Nat} {taken : List Char} {before after : Machine}
    (takes : Takes source taken before after) (supplies : List Supply) :
    Takes source taken before { after with
      clock := supplies.foldl (fun clock supply => max clock supply.time) after.clock } := by
  induction supplies generalizing after with
  | nil => exact takes
  | cons supply supplies ih => exact ih (takes.wait supply.time)

theorem readText_takes (machine : Machine) (source : Nat) :
    ∃ after, (readText (some (.source source))).run machine =
        (String.ofList (machine.remaining source), after) ∧
      Takes source (machine.remaining source) machine after := by
  have emptied : Takes source (machine.remaining source) machine
      ((setRest source []).run machine).2 := takes_setRest (List.append_nil _)
  refine ⟨_, Prod.ext ?_ rfl, ?_⟩
  · show String.join (((machine.sources.lookup source).getD []).map (·.data)) = _
    rw [remaining, ← toList_join_data, String.ofList_toList]
  · have waited := run_waitAll ((machine.sources.lookup source).getD [])
      ((setRest source []).run machine).2
    show Takes source _ machine ((forIn ((machine.sources.lookup source).getD []) _ _ :
      Act PUnit).run ((setRest source []).run machine).2).2
    rw [waited]
    exact emptied.waitAll _

theorem split_readCount (count : Nat) (supplies : List Supply) :
    (readCount.split count supplies).1 = (charactersOf supplies).take count ∧
      charactersOf (readCount.split count supplies).2.1 = (charactersOf supplies).drop count := by
  induction supplies generalizing count with
  | nil => simp [readCount.split]
  | cons supply supplies ih =>
      rw [readCount.split]
      split
      · next none => simp [none]
      · dsimp only
        split
        · next less =>
            simp [List.take_append_of_le_length (Nat.le_of_lt less),
              List.drop_append_of_le_length (Nat.le_of_lt less)]
        · next enough =>
            rcases ih (count - supply.data.toList.length) with ⟨taken, left⟩
            have all := Nat.le_of_not_lt enough
            simp only [taken, left, charactersOf_cons, List.take_append, List.drop_append,
              List.take_of_length_le all, List.drop_of_length_le all, List.nil_append,
              and_self]

theorem readCount_takes (machine : Machine) (source count : Nat) :
    ∃ after, (readCount (some (.source source)) count).run machine =
        (String.ofList ((machine.remaining source).take count), after) ∧
      Takes source ((machine.remaining source).take count) machine after := by
  let parts := readCount.split count ((machine.sources.lookup source).getD [])
  rcases split_readCount count ((machine.sources.lookup source).getD []) with ⟨taken, left⟩
  have whole : (machine.remaining source).take count ++ charactersOf parts.2.1 =
      machine.remaining source := by
    rw [left, remaining, List.take_append_drop]
  refine ⟨_, ?_, (takes_setRest whole).wait parts.2.2⟩
  rw [remaining, ← taken]
  rfl

/-- A line is cut off the front of characters, up to its end if it has one. -/
structure CutsLine (whole line rest : List Char) (ended : Bool) : Prop where
  plain : '\n' ∉ line
  whole : (line ++ if ended then ['\n'] else []) ++ rest = whole
  unended : ended = false → rest = []

theorem cutsLine_split (supplies : List Supply) :
    CutsLine (charactersOf supplies) (readLine.split supplies).1
      (charactersOf (readLine.split supplies).2.1) (readLine.split supplies).2.2.2 := by
  induction supplies with
  | nil => exact ⟨by simp [readLine.split], rfl, fun _ => rfl⟩
  | cons supply supplies ih =>
      have cut := List.takeWhile_append_dropWhile (p := (· != '\n')) (l := supply.data.toList)
      rw [readLine.split]
      dsimp only
      split
      · next c behind found =>
          have isEnd : c = '\n' := by
            have head := List.head?_dropWhile_not (· != '\n') supply.data.toList
            simpa [found] using head
          refine ⟨fun member => ?_, ?_, fun unended => by cases unended⟩
          · simpa using List.mem_takeWhile_imp member
          · have rest : charactersOf (if behind.isEmpty = true then supplies
                else ⟨supply.time, String.ofList behind⟩ :: supplies) =
                  behind ++ charactersOf supplies := by
              cases behind <;> simp
            rw [found, isEnd] at cut
            rw [rest, charactersOf_cons]
            calc
              supply.data.toList.takeWhile (· != '\n') ++ ['\n'] ++
                  (behind ++ charactersOf supplies)
                = supply.data.toList.takeWhile (· != '\n') ++ '\n' :: behind ++
                    charactersOf supplies := by simp
              _ = supply.data.toList ++ charactersOf supplies := by rw [cut]
      · next found =>
          rw [found, List.append_nil] at cut
          refine ⟨?_, ?_, ih.unended⟩
          · intro member
            rcases List.mem_append.mp member with here | later
            · rw [← cut] at here
              simpa using List.mem_takeWhile_imp here
            · exact ih.plain later
          · rw [charactersOf_cons, ← ih.whole]
            simp only [List.append_assoc]

theorem readLine_takes (machine : Machine) (source : Nat) :
    ∃ after line ended, (readLine (some (.source source))).run machine =
        ((String.ofList line, ended), after) ∧
      CutsLine (machine.remaining source) line (after.remaining source) ended ∧
      Takes source (line ++ if ended then ['\n'] else []) machine after := by
  let parts := readLine.split ((machine.sources.lookup source).getD [])
  have cuts := cutsLine_split ((machine.sources.lookup source).getD [])
  have taking := (takes_setRest cuts.whole).wait parts.2.2.1
  refine ⟨_, parts.1, parts.2.2.2, rfl, ?_, taking⟩
  have left := List.append_cancel_left (taking.remaining.trans cuts.whole.symm)
  rw [← left] at cuts
  exact cuts

/-! ### Writers -/

/-- What was written to a sink and not collected yet, oldest first. -/
def writings (machine : Machine) (sink : Nat) : List Emission :=
  (machine.emissions.filter (·.sink = sink)).reverse

/-- The characters that were written to a sink and not collected yet. -/
def written (machine : Machine) (sink : Nat) : List Char :=
  (machine.writings sink).flatMap (·.data.toList)

/-- Nothing was written to a sink before something older, or later than now. -/
structure Timely (machine : Machine) (sink : Nat) : Prop where
  ordered : (machine.writings sink).Pairwise fun first second => first.time ≤ second.time
  past : ∀ emission ∈ machine.writings sink, emission.time ≤ machine.clock

/-- Characters are written behind what was written to a sink before. Time may pass, and nothing else
changes. -/
structure Puts (sink : Nat) (data : List Char) (before after : Machine) : Prop where
  written : after.written sink = before.written sink ++ data
  others : ∀ other ≠ sink, after.writings other = before.writings other
  timely : before.Timely sink → after.Timely sink
  later : before.clock ≤ after.clock
  unchanged : after = { before with emissions := after.emissions, clock := after.clock }

namespace Puts

variable {sink : Nat} {data more : List Char} {before between after : Machine}

theorem refl (sink : Nat) (machine : Machine) : Puts sink [] machine machine where
  written := (List.append_nil _).symm
  others _ _ := rfl
  timely := id
  later := Nat.le_refl _
  unchanged := rfl

theorem trans (first : Puts sink data before between) (second : Puts sink more between after) :
    Puts sink (data ++ more) before after where
  written := by rw [second.written, first.written, List.append_assoc]
  others other distinct := (second.others other distinct).trans (first.others other distinct)
  timely := second.timely ∘ first.timely
  later := Nat.le_trans first.later second.later
  unchanged := by rw [second.unchanged, first.unchanged]

theorem wait (sink : Nat) (time : Nat) (machine : Machine) :
    Puts sink [] machine ((waitUntil time).run machine).2 where
  written := (List.append_nil _).symm
  others _ _ := rfl
  timely timely := ⟨timely.ordered, fun emission member =>
    Nat.le_trans (timely.past emission member) (Nat.le_max_left ..)⟩
  later := Nat.le_max_left ..
  unchanged := rfl

theorem emit (machine : Machine) (sink : Nat) (data : String) :
    Puts sink data.toList machine ((emit sink data).run machine).2 := by
  show Puts sink data.toList machine (if data.isEmpty then machine else _)
  split
  · next empty =>
      rw [String.isEmpty_iff.mp empty]
      exact refl sink machine
  · have own : (⟨sink, machine.clock, machine.job, data⟩ :: machine.emissions).filter
        (·.sink = sink) = ⟨sink, machine.clock, machine.job, data⟩ ::
          machine.emissions.filter (·.sink = sink) := by simp
    refine ⟨?_, ?_, ?_, Nat.le_refl _, rfl⟩
    · simp [Machine.written, writings, own]
    · intro other distinct
      simp [writings, Ne.symm distinct]
    · intro timely
      have ordered := timely.ordered
      have past := timely.past
      rw [writings] at ordered past
      refine ⟨?_, ?_⟩
      · rw [writings, own, List.reverse_cons, List.pairwise_append]
        refine ⟨ordered, List.pairwise_singleton _ _, ?_⟩
        intro first member second last
        rw [List.mem_singleton.mp last]
        exact past first member
      · intro emission member
        rw [writings, own, List.reverse_cons, List.mem_append, List.mem_singleton] at member
        rcases member with old | rfl
        · exact past emission old
        · exact Nat.le_refl _

end Puts

/-- What is collected from a sink is what was written to it. -/
theorem collect_run {machine : Machine} {sink : Nat} (timely : machine.Timely sink) :
    (collect sink).run machine =
      ((machine.writings sink).map fun emission => ⟨emission.time, emission.data⟩,
        { machine with emissions := machine.emissions.filter (·.sink ≠ sink) }) := by
  have sorted : (machine.writings sink).mergeSort
      (fun first second => first.time ≤ second.time) = machine.writings sink :=
    List.mergeSort_of_pairwise (timely.ordered.imp fun ordered => decide_eq_true ordered)
  show (let parts := machine.emissions.partition (·.sink = sink)
    (((parts.1.reverse.mergeSort _).map _,
      { machine with emissions := parts.2 }) : _ × Machine)) = _
  rw [List.partition_eq_filter_filter]
  dsimp only
  rw [← writings, sorted]
  simp [Function.comp_def]

/-- What was written to a pipe is what is read from it. -/
theorem pipe_carries {machine : Machine} {sink : Nat} (timely : machine.Timely sink) :
    ∃ after, (do
        let source ← supply (← collect sink)
        readText (some (.source source))).run machine =
          (String.ofList (machine.written sink), after) ∧
      after.written sink = [] ∧
      (∀ other ≠ sink, after.writings other = machine.writings other) ∧
      ∀ other ≠ machine.fresh, after.remaining other = machine.remaining other := by
  let supplies : List Supply :=
    (machine.writings sink).map fun emission => ⟨emission.time, emission.data⟩
  let filled : Machine :=
    { machine with
      emissions := machine.emissions.filter (·.sink ≠ sink), fresh := machine.fresh + 1
      sources := (machine.fresh, supplies) :: machine.sources }
  have full : filled.remaining machine.fresh = machine.written sink := by
    simp [filled, supplies, remaining, written, charactersOf, List.flatMap_map]
  rcases readText_takes filled machine.fresh with ⟨after, read, takes⟩
  have emissions : after.emissions = machine.emissions.filter (·.sink ≠ sink) := by
    rw [takes.unchanged]
  refine ⟨after, ?_, ?_, ?_, ?_⟩
  · rw [StateT.run_bind, collect_run timely, ← full]
    exact read
  · simp [written, writings, emissions]
  · intro other distinct
    rw [writings, emissions, List.filter_filter, writings]
    congr 1
    refine List.filter_congr fun emission _ => ?_
    by_cases same : emission.sink = other <;> simp [same, distinct]
  · intro other distinct
    rw [takes.others other distinct]
    simp [filled, remaining, List.lookup_cons, beq_false_of_ne distinct]

end Machine

end EntryTree.Command
