import EntryTree.Proofs.Walk.Preorder

/-!
# Limits and queries as filters

The depth limits and the query of a walk take away from what a walk without them brings, and add
nothing. The two limits cut at different places: snapshots and failed fetches are kept at the depths
that are matched, failed listings at the depths below which entries are visited, and an entry counts
as visited down to the lower limit.

A failed call is reported with the path of its entry and not with its depth, and different entries
may share a path. The failures of a walk are therefore listed here with the depths of their entries.
-/

namespace EntryTree

namespace WalkConfig

/-- A depth at which entries are visited. -/
def Reaches (config : WalkConfig) (depth : Nat) : Prop :=
  ∀ limit ∈ config.maxdepth, depth ≤ limit

instance (config : WalkConfig) (depth : Nat) : Decidable (config.Reaches depth) :=
  inferInstanceAs (Decidable (∀ limit ∈ config.maxdepth, depth ≤ limit))

/-- Whether the limits let a walk make a call at a depth. -/
def Allows (config : WalkConfig) (depth : Nat) : WalkCall → Prop
  | .list => config.Continues depth
  | .metadata => config.Covers depth

instance (config : WalkConfig) (depth : Nat) : DecidablePred (config.Allows depth)
  | .list => inferInstanceAs (Decidable (config.Continues depth))
  | .metadata => inferInstanceAs (Decidable (config.Covers depth))

theorem Continues.reaches {config : WalkConfig} {depth : Nat} (continues : config.Continues depth) :
    config.Reaches depth :=
  fun limit member => Nat.le_of_lt (continues limit member)

theorem Covers.reaches {config : WalkConfig} {depth : Nat} (covers : config.Covers depth) :
    config.Reaches depth :=
  covers.2

end WalkConfig

namespace WalkPlan

/-- The walk without limits that finds everything, and fetches metadata if the given one does. -/
def unlimited (plan : WalkPlan) (everything : Query) : WalkPlan :=
  ⟨plan.registry, { fetchMetadata := plan.fetches }, everything⟩

/-- The calls that fail at and below a stop, each with the depth of its entry. -/
def failures (plan : WalkPlan) (stop : Stop) : List (Nat × WalkError) :=
  (plan.itinerary stop).flatMap fun visited =>
    ((plan.inspect visited).errors ++ plan.listErrors visited).map fun error =>
      (visited.depth, error)

variable {plan : WalkPlan} {everything : Query} {stop : Stop}

theorem depth_le_of_mem_itinerary {visited : Stop} (member : visited ∈ plan.itinerary stop) :
    stop.depth ≤ visited.depth := by
  induction stop using plan.stop_induction with
  | visit stop ih =>
      rw [itinerary_eq, List.mem_cons, List.mem_flatMap] at member
      rcases member with rfl | ⟨below, belowMem, member⟩
      · exact Nat.le_refl _
      · have deeper := ih below belowMem member
        have depth := depth_of_mem_next belowMem
        omega

theorem listing?_of_not_continues (ends : ¬plan.config.Continues stop.depth) :
    plan.listing? stop = none := by
  simp [listing?, WalkConfig.descendsFrom_eq_decide, ends]

/-- Where a walk goes on, it lists what a walk without limits lists. -/
theorem listing?_of_continues (everything : Query)
    (continues : plan.config.Continues stop.depth) :
    plan.listing? stop = (plan.unlimited everything).listing? stop := by
  have unlimited : (plan.unlimited everything).config.Continues stop.depth := by
    simp [WalkConfig.Continues, WalkPlan.unlimited]
  simp [listing?, WalkConfig.descendsFrom_eq_decide, continues, unlimited]

/-- The limits cut off the itinerary of a walk below their depth. -/
theorem itinerary_eq_filter (everything : Query) (reached : plan.config.Reaches stop.depth) :
    plan.itinerary stop = ((plan.unlimited everything).itinerary stop).filter fun visited =>
      plan.config.Reaches visited.depth := by
  induction stop using (plan.unlimited everything).stop_induction with
  | visit stop ih =>
      rw [itinerary_eq, itinerary_eq, List.filter_cons_of_pos (by simpa using reached),
        List.filter_flatMap]
      congr 1
      by_cases continues : plan.config.Continues stop.depth
      · have next : plan.next stop = (plan.unlimited everything).next stop := by
          simp only [WalkPlan.next, listing?_of_continues everything continues]
        rw [next, List.flatMap_def, List.flatMap_def, List.map_congr_left fun below member => ?_]
        exact ih below member (by rwa [depth_of_mem_next member])
      · have next : plan.next stop = [] := by
          simp only [WalkPlan.next, listing?_of_not_continues continues]
        rw [next, List.flatMap_nil, eq_comm, List.flatMap_eq_nil_iff]
        intro below belowMem
        rw [List.filter_eq_nil_iff]
        intro visited member
        have deep := depth_le_of_mem_itinerary member
        rw [depth_of_mem_next belowMem] at deep
        simp only [decide_eq_true_eq]
        intro reaches
        apply continues
        intro limit limitMem
        exact Nat.lt_of_lt_of_le deep (reaches limit limitMem)

/-- A query that needs no metadata leaves it to the options whether it is fetched. -/
theorem observe_unlimited (needless : everything.needsMetadata = false) :
    (plan.unlimited everything).observe stop = plan.observe stop := by
  simp [observe, unlimited, fetches, needless]

theorem depth_observe (plan : WalkPlan) (stop : Stop) :
    (plan.observe stop).1.depth = stop.depth := by
  unfold observe
  split
  · split <;> rfl
  · rfl

theorem found_inspect (plan : WalkPlan) (stop : Stop) :
    (plan.inspect stop).found = if plan.config.Covers stop.depth ∧
      plan.query.accepts (plan.observe stop).1 = true then [(plan.observe stop).1] else [] := by
  by_cases covers : plan.config.Covers stop.depth <;> simp [inspect, covers]

theorem errors_inspect (plan : WalkPlan) (stop : Stop) :
    (plan.inspect stop).errors =
      if plan.config.Covers stop.depth then (plan.observe stop).2 else [] := by
  by_cases covers : plan.config.Covers stop.depth <;> simp [inspect, covers]

theorem visited_inspect (plan : WalkPlan) (stop : Stop) : (plan.inspect stop).visited = 1 := by
  by_cases covers : plan.config.Covers stop.depth <;> simp [inspect, covers]

theorem visited_survey (plan : WalkPlan) (stop : Stop) :
    (plan.survey stop).visited = (plan.itinerary stop).length := by
  rw [survey_eq_join_itinerary, WalkReport.visited_join, List.length_map]
  intro report member
  rcases List.mem_map.mp member with ⟨visited, _, rfl⟩
  simp [visited_inspect]

theorem found_survey (plan : WalkPlan) (stop : Stop) :
    (plan.survey stop).found =
      (plan.itinerary stop).flatMap fun visited => (plan.inspect visited).found := by
  simp [survey_eq_join_itinerary, List.flatMap_map]

theorem errors_survey (plan : WalkPlan) (stop : Stop) :
    (plan.survey stop).errors = (plan.failures stop).map Prod.snd := by
  simp [survey_eq_join_itinerary, failures, List.flatMap_map, List.map_flatMap, Function.comp_def]

theorem flatMap_filter_eq {α : Type} (stops : List Stop) {kept : Stop → Bool}
    {f g : Stop → List α} (same : ∀ stop, (if kept stop then f stop else []) = g stop) :
    (stops.filter kept).flatMap f = stops.flatMap g := by
  induction stops with
  | nil => rfl
  | cons stop stops ih =>
      rw [List.flatMap_cons, ← same, ← ih, List.filter_cons]
      split <;> simp

/-- Without limits, and with a query that accepts everything, a walk finds every stop. -/
theorem found_survey_unlimited (accepted : ∀ snapshot, everything.accepts snapshot = true)
    (needless : everything.needsMetadata = false) :
    ((plan.unlimited everything).survey stop).found =
      ((plan.unlimited everything).itinerary stop).map fun visited => (plan.observe visited).1 := by
  have covers : ∀ depth, (plan.unlimited everything).config.Covers depth := by
    simp [WalkConfig.Covers, unlimited]
  have accepts : ∀ snapshot, (plan.unlimited everything).query.accepts snapshot = true := accepted
  simp [found_survey, found_inspect, covers, accepts, observe_unlimited needless,
    List.map_eq_flatMap]

/-- What a walk finds are the snapshots of the full walk that pass its limits and its query. -/
theorem found_eq_filter (accepted : ∀ snapshot, everything.accepts snapshot = true)
    (needless : everything.needsMetadata = false) (reached : plan.config.Reaches stop.depth) :
    (plan.survey stop).found = ((plan.unlimited everything).survey stop).found.filter
      fun snapshot => plan.config.Covers snapshot.depth ∧ plan.query.accepts snapshot = true := by
  rw [found_survey_unlimited accepted needless, found_survey,
    itinerary_eq_filter everything reached, List.map_eq_flatMap, List.filter_flatMap]
  apply flatMap_filter_eq
  intro visited
  rw [found_inspect]
  by_cases covers : plan.config.Covers visited.depth
  · simp [List.filter_cons, depth_observe, covers, covers.reaches]
  · simp [depth_observe, covers]

theorem visited_eq_length (accepted : ∀ snapshot, everything.accepts snapshot = true)
    (needless : everything.needsMetadata = false) (reached : plan.config.Reaches stop.depth) :
    (plan.survey stop).visited = (((plan.unlimited everything).survey stop).found.filter
      fun snapshot => plan.config.Reaches snapshot.depth).length := by
  rw [found_survey_unlimited accepted needless, visited_survey,
    itinerary_eq_filter everything reached, List.filter_map, List.length_map]
  simp only [Function.comp_def, depth_observe]

theorem call_of_mem_observe {error : WalkError} (member : error ∈ (plan.observe stop).2) :
    error.call = .metadata := by
  unfold observe at member
  split at member
  · split at member <;> simp_all
  · cases member

theorem call_of_mem_listErrors {error : WalkError} (member : error ∈ plan.listErrors stop) :
    error.call = .list := by
  unfold listErrors at member
  split at member <;> simp_all

theorem listErrors_eq (plan : WalkPlan) (everything : Query) (stop : Stop) :
    plan.listErrors stop = if plan.config.Continues stop.depth then
      (plan.unlimited everything).listErrors stop else [] := by
  by_cases continues : plan.config.Continues stop.depth
  · simp only [listErrors, listing?_of_continues everything continues, continues, if_true]
  · simp only [listErrors, listing?_of_not_continues continues, continues, if_false]

/-- Whether failures of calls of one kind at one depth are kept depends on the limits alone. -/
theorem filter_allows (config : WalkConfig) (depth : Nat) {call : WalkCall}
    {errors : List WalkError} (calls : ∀ error ∈ errors, error.call = call) :
    (errors.map fun error => (depth, error)).filter
        (fun (depth, error) => config.Allows depth error.call) =
      (if config.Allows depth call then errors else []).map fun error => (depth, error) := by
  rw [List.filter_map]
  congr 1
  split
  · next allowed =>
      rw [List.filter_eq_self]
      intro error member
      simpa [calls error member] using allowed
  · next refused =>
      rw [List.filter_eq_nil_iff]
      intro error member
      simpa [calls error member] using refused

/-- The calls that fail in a walk are those of the full walk that the limits let it make. -/
theorem failures_eq_filter (needless : everything.needsMetadata = false)
    (reached : plan.config.Reaches stop.depth) :
    plan.failures stop = ((plan.unlimited everything).failures stop).filter
      fun (depth, error) => plan.config.Allows depth error.call := by
  have covers : ∀ depth, (plan.unlimited everything).config.Covers depth := by
    simp [WalkConfig.Covers, unlimited]
  rw [failures, failures, itinerary_eq_filter everything reached, List.filter_flatMap]
  apply flatMap_filter_eq
  intro visited
  rw [errors_inspect, errors_inspect, if_pos (covers _), observe_unlimited needless,
    List.map_append, List.map_append, List.filter_append,
    filter_allows _ _ fun _ => call_of_mem_observe,
    filter_allows _ _ fun _ => call_of_mem_listErrors, listErrors_eq plan everything]
  by_cases reaches : plan.config.Reaches visited.depth
  · rw [if_pos (decide_eq_true reaches)]
    rfl
  · have uncovered : ¬plan.config.Covers visited.depth := fun covers => reaches covers.reaches
    have ends : ¬plan.config.Continues visited.depth := fun goesOn => reaches goesOn.reaches
    simp [reaches, uncovered, ends, WalkConfig.Allows]

end WalkPlan

/-- The query that is compiled from no tokens accepts everything and needs no metadata. -/
theorem Query.of_compile_nil {registry : ActionRegistry} {reference : Instant} {query : Query}
    (compiled : compile registry reference [] = .ok query) :
    query = ⟨.always true, reference, false⟩ := by
  cases compiled
  rfl

/-- The depth limits and the query of a walk are filters of what the same walk brings without
them. -/
theorem walk_eq_filter_unlimited (plan : WalkPlan) (root : Entry) {reference : Instant}
    {everything : Query} (compiled : Query.compile plan.registry reference [] = .ok everything)
    (valid : plan.config.validate = .ok ()) (calm : root.Calm) (answering : root.Answering) :
    ∃ report whole,
      (walk plan root false).outcome = .ok report ∧
      (walk (plan.unlimited everything) root false).outcome = .ok whole ∧
      report.found = whole.found.filter
        (fun snapshot => plan.config.Covers snapshot.depth ∧ plan.query.accepts snapshot = true) ∧
      report.visited =
        (whole.found.filter fun snapshot => plan.config.Reaches snapshot.depth).length ∧
      whole.errors = ((plan.unlimited everything).failures (.start root)).map Prod.snd ∧
      report.errors = (((plan.unlimited everything).failures (.start root)).filter
        fun (depth, error) => plan.config.Allows depth error.call).map Prod.snd := by
  have accepted : ∀ snapshot, everything.accepts snapshot = true := by
    rw [Query.of_compile_nil compiled]
    intro snapshot
    rfl
  have needless : everything.needsMetadata = false := by rw [Query.of_compile_nil compiled]
  have reached : plan.config.Reaches (Stop.start root).depth := fun limit _ => Nat.zero_le limit
  refine ⟨plan.survey (.start root), (plan.unlimited everything).survey (.start root),
    by rw [walk_of_undisturbed valid calm answering],
    by rw [walk_of_undisturbed rfl calm answering], ?_, ?_, ?_, ?_⟩
  · exact plan.found_eq_filter accepted needless reached
  · exact plan.visited_eq_length accepted needless reached
  · exact (plan.unlimited everything).errors_survey (.start root)
  · rw [plan.errors_survey, plan.failures_eq_filter needless reached]

theorem walk_eq_filter_unlimited_specimen :
    Query.compile .core ⟨0, 0⟩ [] = .ok ⟨.always true, ⟨0, 0⟩, false⟩ ∧
      WalkPlan.specimen.config.validate = .ok () ∧ (Entry.specimen false).Calm ∧
      (Entry.specimen false).Answering ∧
      ∃ report whole,
        (walk .specimen (.specimen false) false).outcome = .ok report ∧
        (walk (WalkPlan.specimen.unlimited ⟨.always true, ⟨0, 0⟩, false⟩)
          (.specimen false) false).outcome = .ok whole ∧
        report.found = whole.found.filter (fun snapshot =>
          WalkPlan.specimen.config.Covers snapshot.depth ∧
            WalkPlan.specimen.query.accepts snapshot = true) ∧
        report.visited = (whole.found.filter fun snapshot => snapshot.depth ≤ 1).length := by
  rcases walk_eq_filter_unlimited .specimen (.specimen false) (by rfl) rfl Entry.calm_specimen
      (Entry.answering_specimen false) with ⟨report, whole, ended, endedWhole, found, visited, _⟩
  refine ⟨by rfl, rfl, Entry.calm_specimen, Entry.answering_specimen false, report, whole, ended,
    endedWhole, found, ?_⟩
  simpa [WalkPlan.specimen, WalkConfig.Reaches] using visited

end EntryTree
