import EntryTree.Proofs.Action.Resolution
import EntryTree.Proofs.Query.Location
import EntryTree.Proofs.Walk.Limits

/-!
# Queries by action and the descent of a walk

That an entry serves an action is found out in three places: a snapshot lists the names of all
actions that the entry serves, `-action` looks a name up in this list, and a walk asks the listing
of children itself before it goes on below an entry. The three agree. A walk therefore lists just
those of the entries it visits that have children, lie above the lower limit and are accepted by
`-action list`, and all that it visits below its root it came to in this way.
-/

namespace EntryTree

variable {registry : ActionRegistry} {name : String} {action : Action}

namespace Query

/-- The query for an action, by the name of the action. -/
def ofAction (reference : Instant) (name : String) (action : Action) : Query :=
  ofExpression reference (.primary ["-action", name]
    (.plain (.atomic fun snapshot => snapshot.actions.contains action.name)))

theorem find?_action (registry : ActionRegistry) (reference : Instant) :
    (Clause.table registry reference).find? "-action" = some (Clause.action registry) := by
  rw [Clause.table, Keyed.find?_ofList]
  rfl

/-- The name of a registered action is a query. -/
theorem compile_action (found : registry.find? name = some action) (reference : Instant) :
    compile registry reference ["-action", name] = .ok (ofAction reference name action) := by
  apply compile_primary registry reference (by decide)
  simp only [PrimaryTable.primary, find?_action, Clause.action, found]
  rfl

/-- Any other name is malformed. -/
theorem compile_unknown_action (absent : registry.find? name = none) (reference : Instant) :
    let known := ", ".intercalate registry.keys
    compile registry reference ["-action", name] = .error (.failure ⟨.malformed,
      "-action: " ++ s!"unknown action {Text.quoted name}; expected one of {known}", 1⟩) := by
  intro known
  have refuses : (Clause.table registry reference).Refuses ["-action", name] 0 "-action"
      (.malformed s!"unknown action {Text.quoted name}; expected one of {known}") := by
    refine ⟨[name], _, ⟨0, .head .conjunction (.single .operand)⟩, rfl,
      find?_action registry reference, ?_⟩
    simp only [Clause.action, absent, known, Halt.malformed]
  rw [compile_of_refuses refuses]
  rfl

theorem accepts_ofAction (reference : Instant) (name : String) (action : Action)
    (snapshot : Snapshot) :
    (ofAction reference name action).accepts snapshot = snapshot.actions.contains action.name := by
  rw [ofAction, accepts_ofExpression]
  rfl

end Query

/-- The actions of a snapshot are those that the entry serves by themselves. -/
theorem ActionRegistry.Named.contains_supported (named : registry.Named)
    (found : registry.find? name = some action) (entry : Entry) :
    (registry.supported entry).contains action.name = action.isSupportedOn entry := by
  rw [Bool.eq_iff_iff, List.contains_iff_mem, named.mem_supported_iff, named found]
  constructor
  · rintro ⟨other, same, served⟩
    rw [found] at same
    rwa [Option.some.inj same]
  · intro served
    exact ⟨action, found, served⟩

namespace WalkPlan

variable {plan : WalkPlan} {stop visited : Stop}

theorem actions_observe (plan : WalkPlan) (stop : Stop) :
    (plan.observe stop).1.actions = plan.registry.supported stop.entry := by
  unfold observe
  split
  · split <;> rfl
  · rfl

theorem accepts_observe (named : plan.registry.Named)
    (found : plan.registry.find? name = some action) (reference : Instant) (stop : Stop) :
    (Query.ofAction reference name action).accepts (plan.observe stop).1 =
      action.isSupportedOn stop.entry := by
  rw [Query.accepts_ofAction, actions_observe, named.contains_supported found]

/-- A stop whose children a walk lists, by a query that tells of entries whether they serve the
listing of children. -/
def Lists (plan : WalkPlan) (listable : Query) (stop : Stop) : Prop :=
  plan.config.Continues stop.depth ∧ listable.accepts (plan.observe stop).1 = true ∧
    stop.entry.group?.isSome = true

instance (plan : WalkPlan) (listable : Query) : DecidablePred (plan.Lists listable) :=
  fun _ => inferInstanceAs (Decidable (_ ∧ _ ∧ _))

variable {listable : Query}

theorem isSome_listing?
    (agrees : listable.accepts (plan.observe stop).1 = Action.list.isSupportedOn stop.entry) :
    (plan.listing? stop).isSome = decide (plan.Lists listable stop) := by
  rw [Bool.eq_iff_iff, decide_eq_true_eq, Lists, agrees, listing?,
    WalkConfig.descendsFrom_eq_decide]
  split
  · next allowed =>
      rw [Bool.and_eq_true, decide_eq_true_eq] at allowed
      simp [allowed]
  · next refused =>
      rw [Bool.and_eq_true, decide_eq_true_eq] at refused
      simp only [Option.isSome_none, Bool.false_eq_true, false_iff]
      rintro ⟨continues, served, _⟩
      exact refused ⟨continues, served⟩

/-- Of the calls at a stop, one at most is the listing of its children. -/
theorem listings_stepsAt (plan : WalkPlan) (stop : Stop) :
    ((plan.stepsAt stop).filterMap WalkStep.call).filter (fun call => call.1 = .list) =
      if (plan.listing? stop).isSome then [(.list, stop.entry.name)] else [] := by
  have arrives : (plan.arrival stop).call = none := rfl
  rw [stepsAt, List.filterMap_append, List.filterMap_cons_none arrives]
  cases plan.fetching? stop <;> cases plan.listing? stop <;> simp [Stop.calling]

/-- The calls that list children, of a walk that takes all of its steps. -/
theorem listings_steps
    (agrees : ∀ visited ∈ plan.itinerary stop,
      listable.accepts (plan.observe visited).1 = Action.list.isSupportedOn visited.entry) :
    ((plan.steps stop).filterMap WalkStep.call).filter (fun call => call.1 = .list) =
      ((plan.itinerary stop).filter fun visited => plan.Lists listable visited).map
        fun visited => (.list, visited.entry.name) := by
  rw [steps, List.filterMap_flatMap, List.filter_flatMap]
  generalize plan.itinerary stop = stops at agrees
  induction stops with
  | nil => rfl
  | cons stop stops ih =>
      rw [List.forall_mem_cons] at agrees
      rw [List.flatMap_cons, ih agrees.2, listings_stepsAt, isSome_listing? agrees.1,
        List.filter_cons]
      split <;> rfl

/-- What follows below a stop are its children, and listing them did not fail. -/
theorem listed_of_mem_next (member : visited ∈ plan.next stop) :
    ∃ call children, plan.listing? stop = some (call, children) ∧ call.failure = none ∧
      visited ∈ stop.children children := by
  unfold next at member
  split at member
  · next cancels children listing => exact ⟨_, children, listing, rfl, member⟩
  · cases member

/-- What a walk visits is where it began, or it follows below something else that it visits. -/
theorem eq_or_mem_next_of_mem_itinerary (member : visited ∈ plan.itinerary stop) :
    visited = stop ∨ ∃ parent ∈ plan.itinerary stop, visited ∈ plan.next parent := by
  induction stop using plan.stop_induction with
  | visit stop ih =>
      rw [itinerary_eq] at member ⊢
      rw [List.mem_cons, List.mem_flatMap] at member
      rcases member with here | ⟨below, belowMem, member⟩
      · exact .inl here
      · right
        rcases ih below belowMem member with rfl | ⟨parent, parentMem, follows⟩
        · exact ⟨stop, List.mem_cons_self, belowMem⟩
        · refine ⟨parent, List.mem_cons_of_mem stop ?_, follows⟩
          exact List.mem_flatMap.mpr ⟨below, belowMem, parentMem⟩

theorem mem_found_survey {snapshot : Snapshot} (member : snapshot ∈ (plan.survey stop).found) :
    ∃ visited ∈ plan.itinerary stop, snapshot = (plan.observe visited).1 := by
  rw [found_survey, List.mem_flatMap] at member
  rcases member with ⟨visited, visitedMem, found⟩
  rw [found_inspect] at found
  split at found
  · exact ⟨visited, visitedMem, List.mem_singleton.mp found⟩
  · cases found

end WalkPlan

/-- Of every entry that a walk visits, the query for a registered action tells whether the entry
serves the action, and for any other name there is no query. The walk lists the children of just
those entries that it visits above its lower limit, that the query for the listing of children
accepts and that have children; and whatever it visits below its root is a child of such an entry,
whose listing did not fail. -/
theorem walk_descends_by_action (plan : WalkPlan) (root : Entry) (core : plan.registry = .core)
    (valid : plan.config.validate = .ok ()) (calm : root.Calm) (answering : root.Answering) :
    (∃ report, (walk plan root false).outcome = .ok report ∧
      report.visited = (plan.itinerary (.start root)).length ∧
      ∀ snapshot ∈ report.found,
        ∃ visited ∈ plan.itinerary (.start root), snapshot = (plan.observe visited).1) ∧
    (∀ name action reference, ActionRegistry.core.find? name = some action →
      ∃ query, Query.compile .core reference ["-action", name] = .ok query ∧
        ∀ visited ∈ plan.itinerary (.start root),
          query.accepts (plan.observe visited).1 = action.isSupportedOn visited.entry) ∧
    (∀ name reference, ActionRegistry.core.contains name = false →
      ∃ message, Query.compile .core reference ["-action", name] =
        .error (.failure ⟨.malformed, message, 1⟩)) ∧
    ∀ reference listable, Query.compile .core reference ["-action", "list"] = .ok listable →
      (walk plan root false).calls.filter (fun call => call.1 = .list) =
        ((plan.itinerary (.start root)).filter fun visited => plan.Lists listable visited).map
          (fun visited => (.list, visited.entry.name)) ∧
      ∀ visited ∈ plan.itinerary (.start root), visited = .start root ∨
        ∃ parent ∈ plan.itinerary (.start root), plan.Lists listable parent ∧
          ∃ call children, parent.entry.group? = some (call, children) ∧ call.failure = none ∧
            visited ∈ parent.children children := by
  have named : plan.registry.Named := by
    rw [core]
    exact ActionRegistry.named_core
  have undisturbed := walk_of_undisturbed valid calm answering
  refine ⟨⟨_, by rw [undisturbed], plan.visited_survey _, fun _ => WalkPlan.mem_found_survey⟩,
    ?_, ?_, ?_⟩
  · intro name action reference found
    refine ⟨_, Query.compile_action found reference, fun visited _ => ?_⟩
    rw [← core] at found
    exact plan.accepts_observe named found reference visited
  · intro name reference absent
    rw [Keyed.contains, Option.isSome_eq_false_iff, Option.isNone_iff_eq_none] at absent
    exact ⟨_, Query.compile_unknown_action absent reference⟩
  · intro reference listable compiled
    have found : ActionRegistry.core.find? "list" = some .list := by rfl
    rw [Query.compile_action found] at compiled
    rcases Except.ok.inj compiled with rfl
    rw [← core] at found
    have agrees := plan.accepts_observe named found reference
    rw [undisturbed]
    refine ⟨WalkPlan.listings_steps fun visited _ => agrees visited, ?_⟩
    intro visited member
    rcases WalkPlan.eq_or_mem_next_of_mem_itinerary member with here | ⟨parent, parentMem, follows⟩
    · exact .inl here
    · right
      rcases WalkPlan.listed_of_mem_next follows with ⟨call, children, listing, answered, child⟩
      have lists : plan.Lists (.ofAction reference "list" .list) parent := by
        apply of_decide_eq_true
        rw [← WalkPlan.isSome_listing? (agrees parent), listing]
        rfl
      exact ⟨parent, parentMem, lists, call, children, (WalkPlan.listing?_eq_some listing).2.2,
        answered, child⟩

/-- In the specimen without limits, the listing of one of the three groups is hidden. -/
theorem walk_descends_by_action_specimen :
    let plan := WalkPlan.specimen.unlimited ⟨.always true, ⟨0, 0⟩, false⟩
    plan.registry = .core ∧ plan.config.validate = .ok () ∧ (Entry.specimen false).Calm ∧
      (Entry.specimen false).Answering ∧
      (∃ query, Query.compile .core ⟨0, 0⟩ ["-action", "delete"] = .ok query ∧
        query.accepts (plan.observe (.start (.specimen false))).1 = false) ∧
      (∃ message, Query.compile .core ⟨0, 0⟩ ["-action", "shred"] =
        .error (.failure ⟨.malformed, message, 1⟩)) ∧
      (walk plan (.specimen false) false).calls.filter (fun call => call.1 = .list) =
        [(.list, "root"), (.list, "mail")] := by
  intro plan
  rcases walk_descends_by_action plan (.specimen false) rfl rfl Entry.calm_specimen
    (Entry.answering_specimen false) with ⟨_, registered, unknown, listed⟩
  refine ⟨rfl, rfl, Entry.calm_specimen, Entry.answering_specimen false, ?_,
    unknown "shred" ⟨0, 0⟩ (by decide), ?_⟩
  · rcases registered "delete" .delete ⟨0, 0⟩ rfl with ⟨query, compiled, agrees⟩
    have root : .start (.specimen false) ∈ plan.itinerary (.start (.specimen false)) := by
      rw [WalkPlan.itinerary_eq]
      exact List.mem_cons_self
    exact ⟨query, compiled, agrees _ root⟩
  · have compiled : Query.compile .core ⟨0, 0⟩ ["-action", "list"] = _ :=
      Query.compile_action rfl ⟨0, 0⟩
    rw [(listed _ _ compiled).1]
    decide +kernel

end EntryTree
