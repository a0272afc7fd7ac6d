import EntryTree.Proofs.Walk.Itinerary

/-!
# The walk as a recursion over the tree

What a walk reports can be said without a stack: `WalkPlan.survey` visits an entry and then, if its
children are to be visited and can be listed, the children one after another. In a scope that is
never cancelled, and as long as no call fails as cancelled, the walk comes to its end and reports
exactly this.
-/

namespace EntryTree

namespace WalkConfig

/-- A depth at which entries are matched. -/
def Covers (config : WalkConfig) (depth : Nat) : Prop :=
  config.mindepth ≤ depth ∧ ∀ limit ∈ config.maxdepth, depth ≤ limit

/-- A depth below which entries are visited. -/
def Continues (config : WalkConfig) (depth : Nat) : Prop :=
  ∀ limit ∈ config.maxdepth, depth < limit

instance (config : WalkConfig) (depth : Nat) : Decidable (config.Covers depth) :=
  inferInstanceAs (Decidable (_ ∧ _))

instance (config : WalkConfig) (depth : Nat) : Decidable (config.Continues depth) :=
  inferInstanceAs (Decidable (∀ limit ∈ config.maxdepth, depth < limit))

theorem matchesAt_eq_decide (config : WalkConfig) (depth : Nat) :
    config.matchesAt depth = decide (config.Covers depth) := by
  cases limit : config.maxdepth <;> simp [matchesAt, Covers, limit]

theorem descendsFrom_eq_decide (config : WalkConfig) (depth : Nat) :
    config.descendsFrom depth = decide (config.Continues depth) := by
  cases limit : config.maxdepth <;> simp [descendsFrom, Continues, limit]

end WalkConfig

namespace WalkPlan

/-- The snapshot of a stop and the errors on the way to it. The metadata is fetched if the options
or the query ask for it and the entry has any; if that fails, the snapshot goes without. -/
def observe (plan : WalkPlan) (stop : Stop) : Snapshot × List WalkError :=
  let bare := Snapshot.take plan.registry stop.entry stop.path stop.depth
  if plan.config.fetchMetadata ∨ plan.query.needsMetadata then
    match stop.entry.profile.metadata with
    | none => (bare, [])
    | some ⟨_, .ok metadata⟩ => ({ bare with metadata := some metadata }, [])
    | some ⟨_, .error fault⟩ => (bare, [⟨stop.path, .metadata, fault⟩])
  else (bare, [])

/-- What a stop itself adds to the report: it is visited, and if its depth is within the limits,
its snapshot is matched against the query. -/
def inspect (plan : WalkPlan) (stop : Stop) : WalkReport :=
  if plan.config.Covers stop.depth then
    let (snapshot, errors) := plan.observe stop
    ⟨1, if plan.query.accepts snapshot then [snapshot] else [], errors⟩
  else ⟨1, [], []⟩

mutual

/-- The report of a visit to a stop and to everything below it. The children are visited in the
order in which they are listed, if the limits let the walk go on, the entry serves listing and it
is a group; if listing them fails, nothing below the stop is visited. -/
def survey (plan : WalkPlan) (stop : Stop) : WalkReport :=
  plan.inspect stop ++
    if plan.config.Continues stop.depth ∧ Action.list.isSupportedOn stop.entry then
      match _group : stop.entry.group? with
      | none => {}
      | some (⟨_, some fault⟩, _) => { errors := [⟨stop.path, .list, fault⟩] }
      | some (⟨_, none⟩, children) => plan.surveyAll (stop.children children)
    else {}
termination_by (stop.entry.size, 0)
decreasing_by
  rw [Stop.sizes, Stop.map_entry_children]
  exact .left _ _ (Entry.sizes_lt_size _group)

/-- The reports of visits to stops, one after another. -/
def surveyAll (plan : WalkPlan) (stops : List Stop) : WalkReport :=
  match stops with
  | [] => {}
  | stop :: stops => plan.survey stop ++ plan.surveyAll stops
termination_by (Stop.sizes stops, 1)
decreasing_by
  all_goals
    have := stop.entry.size_pos
    simp only [Stop.sizes, List.map_cons, Entry.sizes, Prod.lex_def]
    omega

end

theorem surveyAll_eq_join (plan : WalkPlan) (stops : List Stop) :
    plan.surveyAll stops = .join (stops.map plan.survey) := by
  induction stops with
  | nil => simp [surveyAll, WalkReport.join]
  | cons stop stops ih => simp [surveyAll, WalkReport.join, ih]

/-- The errors of listing the children of a stop, if the walk lists them. -/
def listErrors (plan : WalkPlan) (stop : Stop) : List WalkError :=
  match plan.listing? stop with
  | some (⟨_, some fault⟩, _) => [⟨stop.path, .list, fault⟩]
  | _ => []

/-- A survey is made up of what is found at the stop, the error of listing the children, and the
surveys of the stops that follow below. -/
theorem survey_eq (plan : WalkPlan) (stop : Stop) :
    plan.survey stop = plan.inspect stop ++ { errors := plan.listErrors stop } ++
      .join ((plan.next stop).map plan.survey) := by
  have emptyJoin : WalkReport.join [] = {} := rfl
  rw [survey, listErrors, next, listing?, WalkConfig.descendsFrom_eq_decide]
  by_cases allowed : plan.config.Continues stop.depth ∧ Action.list.isSupportedOn stop.entry = true
  · simp only [allowed, and_self, if_true, decide_true, Bool.and_self]
    split
    · next group => simp [group, emptyJoin]
    · next cancels fault children group => simp [group, emptyJoin]
    · next cancels children group => simp [group, surveyAll_eq_join]
  · have refused : ¬(decide (plan.config.Continues stop.depth) &&
        Action.list.isSupportedOn stop.entry) = true := by simpa using allowed
    simp [allowed, refused, emptyJoin]

/-- Metadata is fetched at the depths that are matched, if the options or the query ask for it. -/
theorem fetching?_eq (plan : WalkPlan) (stop : Stop) :
    plan.fetching? stop = if plan.config.Covers stop.depth ∧ plan.fetches = true then
      stop.entry.profile.metadata else none := by
  simp [fetching?, WalkConfig.matchesAt_eq_decide]

theorem of_fetching?_eq_some {plan : WalkPlan} {stop : Stop} {call : MetadataCall}
    (fetching : plan.fetching? stop = some call) :
    (plan.config.Covers stop.depth ∧ plan.fetches = true) ∧
      stop.entry.profile.metadata = some call := by
  simpa [fetching?_eq] using fetching

theorem finding_calling (stop : Stop) (call : WalkCall) (cancels : Bool) (failure : Option Fault)
    (found : List Snapshot) (answered : failure ≠ some .cancelled) :
    (stop.calling call cancels failure found).finding =
      { found, errors := failure.toList.map fun fault => ⟨stop.path, call, fault⟩ } := by
  simp [Stop.calling, any_isCancelled_eq_false answered]

theorem select_eq (plan : WalkPlan) (snapshot : Snapshot) :
    plan.select snapshot = if plan.query.accepts snapshot then [snapshot] else [] := by
  simp [select, List.filter_cons]

theorem observe_of_not_fetching {plan : WalkPlan} {stop : Stop}
    (covers : plan.config.Covers stop.depth) (fetching : plan.fetching? stop = none) :
    plan.observe stop = (plan.bare stop, []) := by
  unfold observe
  split
  · next wanted =>
      have metadata : stop.entry.profile.metadata = none := by
        simpa [fetching?_eq, covers, fetches, wanted] using fetching
      simp [metadata, bare]
  · rfl

theorem observe_of_fetching {plan : WalkPlan} {stop : Stop} {call : MetadataCall}
    (fetching : plan.fetching? stop = some call) :
    plan.observe stop = (plan.fetched stop call,
      call.failure.toList.map fun fault => ⟨stop.path, .metadata, fault⟩) := by
  rcases of_fetching?_eq_some fetching with ⟨⟨_, wanted⟩, metadata⟩
  have wanted : plan.config.fetchMetadata = true ∨ plan.query.needsMetadata = true := by
    simpa [fetches] using wanted
  rcases call with ⟨cancels, outcome⟩
  rw [observe, if_pos wanted, metadata]
  cases outcome <;> rfl

/-- The arrival at a stop and the fetch of its metadata bring what is found at the stop itself. -/
theorem findings_visit {plan : WalkPlan} {stop : Stop} (answering : stop.entry.Answering) :
    (plan.arrival stop).finding ++ .join (((plan.fetching? stop).toList.map fun call =>
      stop.calling .metadata call.cancels call.failure
        (plan.select (plan.fetched stop call))).map WalkStep.finding) = plan.inspect stop := by
  unfold inspect
  cases fetching : plan.fetching? stop with
  | none =>
      split
      · next covers =>
          rw [observe_of_not_fetching covers fetching]
          simp [arrival, WalkConfig.matchesAt_eq_decide, covers, fetching, select_eq,
            WalkReport.join]
      · next covers => simp [arrival, WalkConfig.matchesAt_eq_decide, covers, WalkReport.join]
  | some call =>
      rcases of_fetching?_eq_some fetching with ⟨⟨covers, _⟩, metadata⟩
      have answered := failure_ne_of_outcome_ne (answering.metadata metadata)
      rw [if_pos covers, observe_of_fetching fetching]
      ext <;>
        simp [arrival, fetching, finding_calling, answered, select_eq, WalkReport.join]

theorem findings_listing {plan : WalkPlan} {stop : Stop} (answering : stop.entry.Answering) :
    WalkReport.join (((plan.listing? stop).toList.map fun (call, _) =>
      stop.calling .list call.cancels call.failure []).map WalkStep.finding) =
      { errors := plan.listErrors stop } := by
  unfold listErrors
  cases listing : plan.listing? stop with
  | none => rfl
  | some listed =>
      rcases listed with ⟨⟨cancels, failure⟩, children⟩
      have answered := (answering.group (listing?_eq_some listing).2.2).1
      cases failure <;> simp [WalkReport.join, finding_calling, answered]

theorem findings_stepsAt {plan : WalkPlan} {stop : Stop} (answering : stop.entry.Answering) :
    .join ((plan.stepsAt stop).map WalkStep.finding) =
      plan.inspect stop ++ { errors := plan.listErrors stop } := by
  rw [stepsAt, List.map_append, WalkReport.join_append, findings_listing answering, List.map_cons,
    WalkReport.join, findings_visit answering]

/-- The findings of the steps of a walk at and below a stop make up its report. -/
theorem findings_steps {plan : WalkPlan} {stop : Stop} (answering : stop.entry.Answering) :
    .join ((plan.steps stop).map WalkStep.finding) = plan.survey stop := by
  induction stop using plan.stop_induction with
  | visit stop ih =>
      have below : .join (((plan.next stop).flatMap plan.steps).map WalkStep.finding) =
          WalkReport.join ((plan.next stop).map plan.survey) := by
        rw [List.map_flatMap, WalkReport.join_flatMap]
        exact congrArg _ (List.map_congr_left fun below member =>
          ih below member (each_of_mem_next answering member))
      rw [steps_eq, survey_eq, List.map_append, WalkReport.join_append, findings_stepsAt answering,
        below]

/-- A survey is the sum of what every stop of the itinerary adds to it. -/
theorem survey_eq_join_itinerary (plan : WalkPlan) (stop : Stop) :
    plan.survey stop = .join ((plan.itinerary stop).map fun visited =>
      plan.inspect visited ++ { errors := plan.listErrors visited }) := by
  induction stop using plan.stop_induction with
  | visit stop ih =>
      rw [survey_eq, itinerary_eq, List.map_cons, WalkReport.join, List.map_flatMap,
        WalkReport.join_flatMap, List.map_congr_left ih]

end WalkPlan

/-- A walk that nothing cancels makes the calls of all its steps and reports what they find. -/
theorem walk_of_undisturbed {plan : WalkPlan} {root : Entry} (valid : plan.config.validate = .ok ())
    (calm : root.Calm) (answering : root.Answering) :
    walk plan root false =
      { outcome := .ok (plan.survey (.start root))
        calls := (plan.steps (.start root)).filterMap WalkStep.call } := by
  have answered : (Stop.start root).entry.Answering := answering
  rw [walk_of_calm valid calm answering, WalkPlan.findings_steps answered]

/-- In a scope that is never cancelled, and if no call fails as cancelled, a walk brings the report
of the recursion over the tree. -/
theorem walk_eq_survey (plan : WalkPlan) (root : Entry) (valid : plan.config.validate = .ok ())
    (calm : root.Calm) (answering : root.Answering) :
    (walk plan root false).outcome = .ok (plan.survey (.start root)) := by
  have answered : (Stop.start root).entry.Answering := answering
  rw [walk_of_calm valid calm answering, WalkPlan.findings_steps answered]

theorem walk_eq_survey_specimen :
    WalkPlan.specimen.config.validate = .ok () ∧ (Entry.specimen false).Calm ∧
      (Entry.specimen false).Answering ∧
      (walk .specimen (.specimen false) false).outcome =
        .ok (WalkPlan.specimen.survey (.start (.specimen false))) :=
  ⟨rfl, Entry.calm_specimen, Entry.answering_specimen false,
    walk_eq_survey _ _ rfl Entry.calm_specimen (Entry.answering_specimen false)⟩

end EntryTree
