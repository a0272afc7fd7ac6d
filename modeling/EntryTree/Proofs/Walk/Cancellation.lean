import EntryTree.Proofs.Walk.Preorder

/-!
# Cancelling a walk

A call that a walk makes may cancel the scope of the walk and answer all the same. The walk is then
compared with the one through the tree whose calls leave the scope alone. Both take the same steps;
the cancelled walk takes them up to the first call that cancels the scope, and fails as cancelled
unless no step is left after that call. So a walk never brings a report that is cut short.
-/

namespace EntryTree

/-- The stop whose calls leave the scope alone. -/
def Stop.calm (stop : Stop) : Stop :=
  { stop with entry := stop.entry.calm }

namespace WalkPlan

variable {plan : WalkPlan} {stop : Stop}

theorem bare_calm (discreet : plan.registry.Discreet) (stop : Stop) :
    plan.bare stop.calm = plan.bare stop := by
  simp [bare, Stop.calm, Snapshot.take, discreet stop.entry]

theorem fetching?_calm (plan : WalkPlan) (stop : Stop) :
    plan.fetching? stop.calm =
      (plan.fetching? stop).map fun call => { call with cancels := false } := by
  by_cases wanted : (plan.config.matchesAt stop.depth && plan.fetches) = true
  · simp [fetching?, Stop.calm, Profile.calm, wanted]
  · simp [fetching?, Stop.calm, wanted]

theorem listing?_calm (plan : WalkPlan) (stop : Stop) :
    plan.listing? stop.calm = (plan.listing? stop).map fun (call, children) =>
      ({ call with cancels := false }, children.map Entry.calm) := by
  have supported : Action.list.isSupportedOn stop.entry.calm =
      Action.list.isSupportedOn stop.entry :=
    Action.isSupportedOn_forCapability_calm "list" .group stop.entry
  by_cases wanted : (plan.config.descendsFrom stop.depth &&
      Action.list.isSupportedOn stop.entry) = true
  · simp [listing?, Stop.calm, supported, wanted]
  · simp [listing?, Stop.calm, supported, wanted]

/-- The steps at a stop make the same calls whatever their calls do to the scope. -/
theorem calls_stepsAt_calm (plan : WalkPlan) (stop : Stop) :
    (plan.stepsAt stop.calm).map WalkStep.call = (plan.stepsAt stop).map WalkStep.call := by
  simp only [stepsAt, fetching?_calm, listing?_calm, List.map_append, List.map_cons,
    Option.toList_map, List.map_map]
  congr 2
  · apply List.map_congr_left
    intro call _
    simp [Stop.calling, Stop.calm]
  · funext listed
    simp [Stop.calling, Stop.calm]

/-- They find the same as well, if no action can tell what a call does to the scope. -/
theorem findings_stepsAt_calm (discreet : plan.registry.Discreet) (stop : Stop) :
    (plan.stepsAt stop.calm).map WalkStep.finding =
      (plan.stepsAt stop).map WalkStep.finding := by
  simp only [stepsAt, arrival, bare_calm discreet, fetching?_calm, listing?_calm, List.map_append,
    List.map_cons, Option.toList_map, Option.isNone_map, List.map_map]
  congr 2
  · apply List.map_congr_left
    intro call _
    simp only [Function.comp_apply, fetched, bare_calm discreet]
    rfl

theorem next_calm (plan : WalkPlan) (stop : Stop) :
    plan.next stop.calm = (plan.next stop).map Stop.calm := by
  unfold next
  rw [listing?_calm]
  rcases plan.listing? stop with _ | ⟨⟨cancels, _ | fault⟩, children⟩
  · rfl
  · simp [Stop.children, Stop.calm, Function.comp_def]
  · rfl

/-- What is the same about the steps at every stop is the same about the steps of a whole walk. -/
theorem map_steps_calm {α : Type} {aspect : WalkStep → α}
    (same : ∀ stop : Stop, (plan.stepsAt stop.calm).map aspect = (plan.stepsAt stop).map aspect)
    (stop : Stop) : (plan.steps stop.calm).map aspect = (plan.steps stop).map aspect := by
  induction stop using plan.stop_induction with
  | visit stop ih =>
      rw [steps_eq, steps_eq, next_calm, List.map_append, List.map_append, same, List.flatMap_map,
        List.map_flatMap, List.map_flatMap]
      congr 1
      rw [List.flatMap_def, List.flatMap_def, List.map_congr_left ih]

end WalkPlan

/-- Behind the steps that are taken there is something left only if the last of them cancelled the
scope, and none before it did. -/
theorem WalkStep.throughCancel_split (steps : List WalkStep) :
    ∃ rest, steps = throughCancel steps ++ rest ∧
      (∀ step ∈ (throughCancel steps).dropLast, step.cancels = false) ∧
      (rest ≠ [] → ∃ last ∈ (throughCancel steps).getLast?, last.cancels = true) := by
  induction steps with
  | nil => exact ⟨[], rfl, by simp [throughCancel], fun rest => absurd rfl rest⟩
  | cons step steps ih =>
      by_cases cancels : step.cancels = true
      · exact ⟨steps, by simp [throughCancel, cancels], by simp [throughCancel, cancels],
          fun _ => ⟨step, by simp [throughCancel, cancels], cancels⟩⟩
      · rcases ih with ⟨rest, split, quiet, last⟩
        have taken : throughCancel (step :: steps) = step :: throughCancel steps := by
          simp [throughCancel, cancels]
        refine ⟨rest, by rw [taken, List.cons_append, ← split], ?_, ?_⟩
        · rw [taken]
          intro before member
          cases tail : throughCancel steps with
          | nil => simp [tail] at member
          | cons second others =>
              rw [tail, List.dropLast_cons_cons, List.mem_cons] at member
              rcases member with rfl | member
              · simpa using cancels
              · exact quiet before (by rwa [tail])
        · intro left
          rcases last left with ⟨final, member, cancels⟩
          refine ⟨final, ?_, cancels⟩
          rw [taken, List.getLast?_cons, member]
          rfl

/-- Only calls cancel the scope of a walk. -/
theorem WalkPlan.isCall_of_cancels {plan : WalkPlan} {stop : Stop} {step : WalkStep}
    (member : step ∈ plan.steps stop) (cancels : step.cancels = true) :
    step.call.isSome = true := by
  rcases List.mem_flatMap.mp member with ⟨visited, _, member⟩
  rcases mem_stepsAt member with rfl | ⟨call, _, rfl⟩ | ⟨call, children, _, rfl⟩
  · simp [arrival] at cancels
  · rfl
  · rfl

/-- A cancelled walk takes the steps of the walk that nothing cancels, up to the first call that
cancels the scope. If that call is followed by anything, a visit or another call, the walk fails as
cancelled; otherwise it brings the whole report. Nothing at all is called in a scope that was
cancelled before.

The walk that nothing cancels is the one through the calm tree. The rules of foreign actions could
tell the two trees apart, and then the snapshots of their entries differ. -/
theorem walk_until_cancelled (plan : WalkPlan) (root : Entry)
    (valid : plan.config.validate = .ok ()) (answering : root.Answering) :
    walk plan root true = ⟨.error (.fault .cancelled), []⟩ ∧ ∃ taken rest,
      plan.steps (.start root) = taken ++ rest ∧
      (walk plan root.calm false).calls = (taken ++ rest).filterMap WalkStep.call ∧
      (plan.registry.Discreet →
        (walk plan root.calm false).outcome = .ok (plan.survey (.start root))) ∧
      (walk plan root false).calls = taken.filterMap WalkStep.call ∧
      (∀ step ∈ taken.dropLast, step.cancels = false) ∧
      (rest = [] → (walk plan root false).outcome = .ok (plan.survey (.start root))) ∧
      (rest ≠ [] →
        (∃ last ∈ taken.getLast?, last.call.isSome = true ∧ last.cancels = true) ∧
        ∃ fault, (walk plan root false).outcome = .error (.fault fault) ∧
          fault.isCancelled = true) := by
  rcases WalkStep.throughCancel_split (plan.steps (.start root)) with ⟨rest, split, quiet, last⟩
  have findings : .join ((plan.steps (.start root)).map WalkStep.finding) =
      plan.survey (.start root) := by
    have answering : (Stop.start root).entry.Answering := answering
    exact WalkPlan.findings_steps answering
  have undisturbed := walk_of_calm valid answering.calm_calm answering.calm
  refine ⟨by simp [walk, valid, WalkPlan.run], _, rest, split, ?_, ?_, ?_, quiet, ?_, ?_⟩
  · have calls : (plan.steps (.start root.calm)).map WalkStep.call =
        (plan.steps (.start root)).map WalkStep.call :=
      WalkPlan.map_steps_calm plan.calls_stepsAt_calm (.start root)
    have same := congrArg (List.filterMap id) calls
    rw [List.filterMap_map, List.filterMap_map, Function.id_comp] at same
    rw [undisturbed, ← split, same]
  · intro discreet
    have same : (plan.steps (.start root.calm)).map WalkStep.finding =
        (plan.steps (.start root)).map WalkStep.finding :=
      WalkPlan.map_steps_calm (WalkPlan.findings_stepsAt_calm discreet) (.start root)
    rw [undisturbed, same, findings]
  · rw [walk_of_answering valid answering]
  · rintro rfl
    rw [List.append_nil] at split
    rw [← split] at quiet
    rw [walk_of_answering valid answering]
    simp only [List.all_eq_true, Bool.not_eq_true', if_pos quiet, findings]
  · intro left
    rcases last left with ⟨final, member, cancels⟩
    have followed : final ∈ (plan.steps (.start root)).dropLast := by
      rw [split, List.dropLast_append_of_ne_nil left]
      exact List.mem_append_left _ (List.mem_of_getLast? member)
    have isCall := plan.isCall_of_cancels (List.dropLast_subset _ followed) cancels
    refine ⟨⟨final, member, isCall, cancels⟩, .cancelled, ?_, rfl⟩
    rw [walk_of_answering valid answering]
    have cut : ¬∀ step ∈ (plan.steps (.start root)).dropLast, step.cancels = false := by
      intro quiet
      exact Bool.noConfusion ((quiet final followed).symm.trans cancels)
    simp only [List.all_eq_true, Bool.not_eq_true', if_neg cut]

theorem walk_until_cancelled_specimen :
    WalkPlan.specimen.config.validate = .ok () ∧ (Entry.specimen true).Answering ∧
      WalkPlan.specimen.registry.Discreet ∧
      ∃ taken rest,
        WalkPlan.specimen.steps (.start (.specimen true)) = taken ++ rest ∧
        (walk .specimen (Entry.specimen true).calm false).calls =
          (taken ++ rest).filterMap WalkStep.call ∧
        (walk .specimen (Entry.specimen true).calm false).outcome =
          .ok (WalkPlan.specimen.survey (.start (.specimen true))) ∧
        (walk .specimen (.specimen true) false).calls = taken.filterMap WalkStep.call := by
  rcases walk_until_cancelled .specimen (.specimen true) rfl (Entry.answering_specimen true) with
    ⟨_, taken, rest, split, all, undisturbed, calls, _⟩
  exact ⟨rfl, Entry.answering_specimen true, ActionRegistry.discreet_core, taken, rest, split, all,
    undisturbed ActionRegistry.discreet_core, calls⟩

end EntryTree
