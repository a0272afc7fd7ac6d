import EntryTree.Proofs.Query.Metadata
import EntryTree.Proofs.Walk.Limits

/-!
# Walks with and without metadata

The options of a walk may ask for metadata that its query does not need. The walk that fetches it
and the one that does not are compared stop by stop: they visit the same stops, for what is listed
does not depend on what is fetched, and at each of them they answer the query alike. What is fetched
leaves no trace but in the snapshots, and where a fetch fails, in the errors.
-/

namespace EntryTree

/-- The snapshot without its metadata. -/
def Snapshot.withoutMetadata (snapshot : Snapshot) : Snapshot :=
  { snapshot with metadata := none }

namespace WalkPlan

/-- The walk with or without the option to fetch metadata. -/
def withFetching (plan : WalkPlan) (fetchMetadata : Bool) : WalkPlan :=
  { plan with config := { plan.config with fetchMetadata } }

variable {plan : WalkPlan} {fetchMetadata : Bool} {stop : Stop}

@[simp]
theorem query_withFetching : (plan.withFetching fetchMetadata).query = plan.query :=
  rfl

@[simp]
theorem covers_withFetching (depth : Nat) :
    (plan.withFetching fetchMetadata).config.Covers depth = plan.config.Covers depth :=
  rfl

@[simp]
theorem bare_withFetching : (plan.withFetching fetchMetadata).bare stop = plan.bare stop :=
  rfl

@[simp]
theorem listErrors_withFetching :
    (plan.withFetching fetchMetadata).listErrors stop = plan.listErrors stop :=
  rfl

/-- What is listed does not depend on what is fetched. -/
theorem itinerary_withFetching (plan : WalkPlan) (fetchMetadata : Bool) (stop : Stop) :
    (plan.withFetching fetchMetadata).itinerary stop = plan.itinerary stop := by
  induction stop using plan.stop_induction with
  | visit stop ih =>
      have next : (plan.withFetching fetchMetadata).next stop = plan.next stop := rfl
      rw [itinerary_eq, itinerary_eq, next, List.flatMap_def, List.flatMap_def,
        List.map_congr_left ih]

/-- Whatever is fetched at a stop, without the metadata its snapshot is the bare one. -/
theorem withoutMetadata_observe (plan : WalkPlan) (stop : Stop) :
    (plan.observe stop).1.withoutMetadata = plan.bare stop := by
  unfold observe
  split
  · split <;> rfl
  · rfl

theorem observe_without_fetching (needless : plan.query.needsMetadata = false) (stop : Stop) :
    (plan.withFetching false).observe stop = (plan.bare stop, []) := by
  have unwanted : ¬((plan.withFetching false).config.fetchMetadata = true ∨
      (plan.withFetching false).query.needsMetadata = true) := by
    simp [withFetching, needless]
  rw [observe, if_neg unwanted]
  rfl

section Comparing

variable (needless : plan.query.needsMetadata = false)
  (blind : ∀ snapshot, plan.query.accepts snapshot.withoutMetadata = plan.query.accepts snapshot)

include needless

include blind in
theorem found_inspect_without_fetching (stop : Stop) :
    ((plan.withFetching false).inspect stop).found =
      ((plan.withFetching true).inspect stop).found.map Snapshot.withoutMetadata := by
  -- A fetch that fails leaves the bare snapshot, so it does not matter here whether it did.
  have same : ((plan.withFetching true).observe stop).1.withoutMetadata = plan.bare stop := by
    rw [withoutMetadata_observe, bare_withFetching]
  have accepts : plan.query.accepts ((plan.withFetching true).observe stop).1 =
      plan.query.accepts (plan.bare stop) := by rw [← blind, same]
  simp only [found_inspect, observe_without_fetching needless, query_withFetching,
    covers_withFetching, accepts]
  split
  · rw [List.map_singleton, same]
  · rfl

include blind in
/-- The same is found, except that the metadata is missing. -/
theorem found_without_fetching (stop : Stop) :
    ((plan.withFetching false).survey stop).found =
      ((plan.withFetching true).survey stop).found.map Snapshot.withoutMetadata := by
  simp only [found_survey, itinerary_withFetching, List.map_flatMap,
    found_inspect_without_fetching needless blind]

/-- The errors of listing are the same, and there are no others. -/
theorem errors_without_fetching (stop : Stop) :
    ((plan.withFetching false).survey stop).errors =
      ((plan.withFetching true).survey stop).errors.filter fun error => error.call = .list := by
  simp only [errors_survey, failures, itinerary_withFetching, List.map_flatMap, List.map_map,
    Function.comp_def, List.map_id', List.filter_flatMap, List.filter_append,
    listErrors_withFetching]
  congr 1
  funext visited
  have fetched : ((plan.withFetching true).inspect visited).errors.filter
      (fun error => error.call = .list) = [] := by
    rw [List.filter_eq_nil_iff]
    intro error member
    rw [errors_inspect] at member
    split at member
    · simp [call_of_mem_observe member]
    · cases member
  have listed : (plan.listErrors visited).filter (fun error => error.call = .list) =
      plan.listErrors visited := by
    rw [List.filter_eq_self]
    intro error member
    simpa using call_of_mem_listErrors member
  rw [fetched, listed, errors_inspect, observe_without_fetching needless, ite_self]

/-- No call is made but those that list. -/
theorem call_without_fetching {stop : Stop} {call : WalkCall × String}
    (member : call ∈ ((plan.withFetching false).steps stop).filterMap WalkStep.call) :
    call.1 = .list := by
  rcases List.mem_filterMap.mp member with ⟨step, member, called⟩
  rcases List.mem_flatMap.mp member with ⟨visited, _, member⟩
  have fetches : (plan.withFetching false).fetches = false := by
    simp [WalkPlan.fetches, withFetching, needless]
  have fetching : (plan.withFetching false).fetching? visited = none := by
    simp [fetching?_eq, fetches]
  simp only [stepsAt, fetching, Option.toList_none, List.map_nil, List.cons_append,
    List.nil_append, List.mem_cons, List.mem_map] at member
  rcases member with rfl | ⟨listed, _, rfl⟩
  · cases called
  · rcases Option.some.inj called with rfl
    rfl

end Comparing

end WalkPlan

/-- Where a query needs no metadata, fetching it all the same changes nothing but the metadata. With
and without the option, the walk visits as many entries, finds the same in the same order except for
the metadata, and fails to list the same groups; without it, the walk neither asks for metadata nor
fails to fetch any. -/
theorem walk_without_fetching (plan : WalkPlan) (root : Entry) {registry : ActionRegistry}
    {reference : Instant} {tokens : List String}
    (compiled : Query.compile registry reference tokens = .ok plan.query)
    (needless : plan.query.needsMetadata = false) (valid : plan.config.validate = .ok ())
    (calm : root.Calm) (answering : root.Answering) :
    ∃ full bare,
      (walk (plan.withFetching true) root false).outcome = .ok full ∧
      (walk (plan.withFetching false) root false).outcome = .ok bare ∧
      bare.visited = full.visited ∧
      bare.found = full.found.map Snapshot.withoutMetadata ∧
      bare.errors = full.errors.filter (fun error => error.call = .list) ∧
      ∀ call ∈ (walk (plan.withFetching false) root false).calls, call.1 ≠ .metadata := by
  have blind : ∀ snapshot, plan.query.accepts snapshot.withoutMetadata =
      plan.query.accepts snapshot := fun snapshot =>
    Query.accepts_of_needless compiled needless snapshot none snapshot.metadata
  have full : walk (plan.withFetching true) root false = _ :=
    walk_of_undisturbed valid calm answering
  have bare : walk (plan.withFetching false) root false = _ :=
    walk_of_undisturbed valid calm answering
  rw [full, bare]
  refine ⟨_, _, rfl, rfl, ?_, plan.found_without_fetching needless blind _,
    plan.errors_without_fetching needless _, ?_⟩
  · simp only [WalkPlan.visited_survey, WalkPlan.itinerary_withFetching]
  · intro call member
    rw [WalkPlan.call_without_fetching needless member]
    decide

/-- A walk down to the children of the root that finds everything and needs no metadata for it. -/
def WalkPlan.needless : WalkPlan :=
  ⟨.core, { maxdepth := some 1 },
    .ofExpression ⟨0, 0⟩ (.primary ["-true"] (.plain (.always true)))⟩

theorem walk_without_fetching_specimen :
    Query.compile .core ⟨0, 0⟩ ["-true"] = .ok WalkPlan.needless.query ∧
      WalkPlan.needless.query.needsMetadata = false ∧
      WalkPlan.needless.config.validate = .ok () ∧ (Entry.specimen false).Calm ∧
      (Entry.specimen false).Answering ∧
      ∃ full bare,
        (walk (WalkPlan.needless.withFetching true) (.specimen false) false).outcome = .ok full ∧
        (walk (WalkPlan.needless.withFetching false) (.specimen false) false).outcome = .ok bare ∧
        bare.visited = full.visited ∧
        bare.found = full.found.map Snapshot.withoutMetadata ∧
        bare.errors = full.errors.filter (fun error => error.call = .list) ∧
        ∀ call ∈ (walk (WalkPlan.needless.withFetching false) (.specimen false) false).calls,
          call.1 ≠ .metadata := by
  have compiled : Query.compile .core ⟨0, 0⟩ ["-true"] = .ok WalkPlan.needless.query :=
    Query.compile_primary .core ⟨0, 0⟩ (by decide) rfl
  exact ⟨compiled, rfl, rfl, Entry.calm_specimen, Entry.answering_specimen false,
    walk_without_fetching .needless (.specimen false) compiled rfl rfl Entry.calm_specimen
      (Entry.answering_specimen false)⟩

end EntryTree
