import EntryTree.Proofs.Entry.Calls
import EntryTree.Walk.Find

/-!
# Itineraries

A walk keeps the entries that are still to be visited on a stack. This file describes what it does
without the stack. The itinerary of a stop is the stop itself and then, one after another, the
itineraries of the stops that its children make, if they are listed at all. At each stop there are
a few steps: the arrival, which may be followed by fetching the metadata and by listing the
children. The main statement, `run_eq_follow`, says that running a walk on a stack is following the
steps of the itineraries on the stack; it holds of every walk, whether calls fail or cancel the
scope or not.

What following the steps comes to is then a matter of lists: as long as no call fails as cancelled,
the steps up to the first that cancels the scope are taken, and the walk comes to its end unless
there is a step after that one.
-/

namespace EntryTree

attribute [ext] WalkReport

namespace WalkReport

@[simp]
theorem visited_append (first second : WalkReport) :
    (first ++ second).visited = first.visited + second.visited :=
  rfl

@[simp]
theorem found_append (first second : WalkReport) :
    (first ++ second).found = first.found ++ second.found :=
  rfl

@[simp]
theorem errors_append (first second : WalkReport) :
    (first ++ second).errors = first.errors ++ second.errors :=
  rfl

@[simp]
theorem empty_append (report : WalkReport) : {} ++ report = report := by
  ext <;> simp

@[simp]
theorem append_empty (report : WalkReport) : report ++ {} = report := by
  ext <;> simp

theorem append_assoc (first second third : WalkReport) :
    first ++ second ++ third = first ++ (second ++ third) := by
  ext <;> simp [Nat.add_assoc]

/-- The report made of reports in their order. -/
def join : List WalkReport → WalkReport
  | [] => {}
  | report :: reports => report ++ join reports

/-- Reports of one entry each count as many entries as there are reports. -/
theorem visited_join {reports : List WalkReport} (single : ∀ report ∈ reports, report.visited = 1) :
    (join reports).visited = reports.length := by
  induction reports with
  | nil => rfl
  | cons report reports ih =>
      rw [List.forall_mem_cons] at single
      rw [join, visited_append, single.1, ih single.2, List.length_cons, Nat.add_comm]

@[simp]
theorem found_join (reports : List WalkReport) :
    (join reports).found = reports.flatMap found := by
  induction reports with
  | nil => rfl
  | cons report reports ih => simp [join, ih]

@[simp]
theorem errors_join (reports : List WalkReport) :
    (join reports).errors = reports.flatMap errors := by
  induction reports with
  | nil => rfl
  | cons report reports ih => simp [join, ih]

theorem join_append (first second : List WalkReport) :
    join (first ++ second) = join first ++ join second := by
  induction first with
  | nil => exact (empty_append (join second)).symm
  | cons report reports ih => rw [List.cons_append, join, ih, join, append_assoc]

theorem join_flatMap {α : Type} (parts : List α) (reports : α → List WalkReport) :
    join (parts.flatMap reports) = join (parts.map fun part => join (reports part)) := by
  induction parts with
  | nil => rfl
  | cons part parts ih => rw [List.flatMap_cons, join_append, List.map_cons, join, ih]

end WalkReport

/-- One thing that a walk does: it arrives at a stop, or it calls on the entry there. -/
structure WalkStep where
  /-- The call, if it is one. -/
  call : Option (WalkCall × String) := none
  /-- Whether the scope is cancelled in the course of the step. -/
  cancels : Bool := false
  /-- Whether the step fails as cancelled, which ends the walk. -/
  givesUp : Bool := false
  /-- What the step adds to the report. -/
  finding : WalkReport := {}

namespace WalkStep

/-- The steps up to the first one that cancels the scope, and this one. -/
def throughCancel : List WalkStep → List WalkStep
  | [] => []
  | step :: steps => step :: if step.cancels then [] else throughCancel steps

theorem throughCancel_eq_self {steps : List WalkStep}
    (quiet : ∀ step ∈ steps.dropLast, step.cancels = false) : throughCancel steps = steps := by
  induction steps with
  | nil => rfl
  | cons step steps ih =>
      cases steps with
      | nil => simp [throughCancel]
      | cons second steps =>
          simp only [List.dropLast_cons_cons, List.mem_cons, forall_eq_or_imp] at quiet
          rw [throughCancel, ih quiet.2]
          simp [quiet.1]

end WalkStep

namespace Course

/-- The course after a step. -/
def after (course : Course) (step : WalkStep) : Course where
  calls := step.call.toList ++ course.calls
  cancelled := course.cancelled || step.cancels
  visited := course.visited + step.finding.visited
  found := step.finding.found.reverse ++ course.found
  errors := step.finding.errors.reverse ++ course.errors

/-- The course with snapshots added to those that were found. -/
def keep (course : Course) (snapshots : List Snapshot) : Course :=
  { course with found := snapshots.reverse ++ course.found }

/-- Takes steps as long as the scope is not cancelled and none gives up. The result says whether
all steps were taken. -/
def follow (course : Course) : List WalkStep → Bool × Course
  | [] => (true, course)
  | step :: steps =>
    if course.cancelled then (false, course)
    else if step.givesUp then (false, course.after step)
    else (course.after step).follow steps

@[simp]
theorem follow_nil (course : Course) : course.follow [] = (true, course) :=
  rfl

theorem follow_cons_of_cancelled {course : Course} (cancelled : course.cancelled = true)
    (step : WalkStep) (steps : List WalkStep) :
    course.follow (step :: steps) = (false, course) := by
  simp [follow, cancelled]

theorem follow_cons {course : Course} (active : course.cancelled = false) (step : WalkStep)
    (steps : List WalkStep) : course.follow (step :: steps) =
      if step.givesUp then (false, course.after step) else (course.after step).follow steps := by
  simp [follow, active]

theorem report_foldl_after (course : Course) (steps : List WalkStep) :
    (steps.foldl after course).report =
      course.report ++ WalkReport.join (steps.map WalkStep.finding) := by
  induction steps generalizing course with
  | nil => ext <;> simp [WalkReport.join]
  | cons step steps ih =>
      rw [List.foldl_cons, ih]
      ext <;> simp [WalkReport.join, report, after, Nat.add_assoc]

theorem calls_foldl_after (course : Course) (steps : List WalkStep) :
    (steps.foldl after course).calls.reverse =
      course.calls.reverse ++ steps.filterMap WalkStep.call := by
  induction steps generalizing course with
  | nil => simp
  | cons step steps ih =>
      rw [List.foldl_cons, ih]
      cases called : step.call <;> simp [after, called]

/-- Steps of which none gives up are taken up to the first that cancels the scope, and all were
taken if this is the last one or there is none. -/
theorem follow_of_answered {steps : List WalkStep}
    (answered : ∀ step ∈ steps, step.givesUp = false) {course : Course}
    (active : course.cancelled = false) :
    course.follow steps = (steps.dropLast.all fun step => !step.cancels,
      (WalkStep.throughCancel steps).foldl after course) := by
  induction steps generalizing course with
  | nil => simp [WalkStep.throughCancel]
  | cons step steps ih =>
      simp only [List.mem_cons, forall_eq_or_imp] at answered
      rw [follow_cons active]
      simp only [answered.1, Bool.false_eq_true, if_false, WalkStep.throughCancel]
      by_cases cancels : step.cancels = true
      · have cancelled : (course.after step).cancelled = true := by simp [after, cancels]
        cases steps with
        | nil => simp [cancels]
        | cons second steps => simp [follow_cons_of_cancelled cancelled, cancels]
      · have active' : (course.after step).cancelled = false := by
          simpa [after, active] using cancels
        rw [ih answered.2 active']
        cases steps with
        | nil => simp [WalkStep.throughCancel]
        | cons second steps => simp [cancels]

end Course

/-- The stop that a walk starts from. -/
abbrev Stop.start (root : Entry) : Stop :=
  ⟨root, "/", 0⟩

/-- What a fetch of metadata fails with, if it does. -/
def MetadataCall.failure (call : MetadataCall) : Option Fault :=
  match call.outcome with
  | .ok _ => none
  | .error fault => some fault

/-- The step of a call at a stop that finds something unless it fails. A failure becomes an error
of the report, except that a call which fails as cancelled ends the walk. -/
def Stop.calling (stop : Stop) (call : WalkCall) (cancels : Bool) (failure : Option Fault)
    (found : List Snapshot) : WalkStep where
  call := some (call, stop.entry.name)
  cancels := cancels
  givesUp := failure.any Fault.isCancelled
  finding :=
    if failure.any Fault.isCancelled then {}
    else { found, errors := failure.toList.map fun fault => ⟨stop.path, call, fault⟩ }

theorem Entry.size_le_sizes {entry : Entry} {entries : List Entry} (member : entry ∈ entries) :
    entry.size ≤ Entry.sizes entries := by
  induction entries with
  | nil => cases member
  | cons first entries ih =>
      simp only [Entry.sizes]
      rcases List.mem_cons.mp member with rfl | member
      · omega
      · exact Nat.le_trans (ih member) (Nat.le_add_left _ _)

namespace WalkPlan

/-- The fetch of metadata that a walk makes at a stop, if it makes one. -/
def fetching? (plan : WalkPlan) (stop : Stop) : Option MetadataCall :=
  if plan.config.matchesAt stop.depth && plan.fetches then stop.entry.profile.metadata else none

/-- The snapshot of a stop without metadata. -/
def bare (plan : WalkPlan) (stop : Stop) : Snapshot :=
  .take plan.registry stop.entry stop.path stop.depth

/-- The snapshot of a stop with the metadata that a fetch brought. -/
def fetched (plan : WalkPlan) (stop : Stop) (call : MetadataCall) : Snapshot :=
  { plan.bare stop with metadata := call.outcome.toOption }

/-- The snapshots that the query of a walk accepts, of a single one. -/
def select (plan : WalkPlan) (snapshot : Snapshot) : List Snapshot :=
  [snapshot].filter plan.query.accepts

/-- The arrival at a stop. Where no metadata is fetched, the query is answered at once. -/
def arrival (plan : WalkPlan) (stop : Stop) : WalkStep where
  finding :=
    { visited := 1
      found :=
        if plan.config.matchesAt stop.depth && (plan.fetching? stop).isNone then
          plan.select (plan.bare stop)
        else [] }

/-- The steps at a stop. -/
def stepsAt (plan : WalkPlan) (stop : Stop) : List WalkStep :=
  plan.arrival stop ::
    ((plan.fetching? stop).toList.map fun call =>
      stop.calling .metadata call.cancels call.failure (plan.select (plan.fetched stop call))) ++
    (plan.listing? stop).toList.map fun (call, _) => stop.calling .list call.cancels call.failure []

/-- The stops that follow below a stop: those of its children, if they could be listed. -/
def next (plan : WalkPlan) (stop : Stop) : List Stop :=
  match plan.listing? stop with
  | some (⟨_, none⟩, children) => stop.children children
  | _ => []

theorem listing?_eq_some {plan : WalkPlan} {stop : Stop} {call : ListCall} {children : List Entry}
    (listing : plan.listing? stop = some (call, children)) :
    plan.config.descendsFrom stop.depth = true ∧ Action.list.isSupportedOn stop.entry = true ∧
      stop.entry.group? = some (call, children) := by
  unfold listing? at listing
  split at listing
  · next allowed =>
      rw [Bool.and_eq_true] at allowed
      exact ⟨allowed.1, allowed.2, listing⟩
  · cases listing

/-- The stops below a stop are those of its children, which were listed without failure. -/
theorem mem_next {plan : WalkPlan} {stop below : Stop} (member : below ∈ plan.next stop) :
    ∃ call children, plan.listing? stop = some (call, children) ∧ below.entry ∈ children ∧
      below.depth = stop.depth + 1 := by
  unfold next at member
  split at member
  · next cancels children listing =>
      simp only [Stop.children, List.mem_map] at member
      rcases member with ⟨child, childMem, rfl⟩
      exact ⟨_, children, listing, childMem, rfl⟩
  · cases member

theorem depth_of_mem_next {plan : WalkPlan} {stop below : Stop}
    (member : below ∈ plan.next stop) : below.depth = stop.depth + 1 := by
  rcases mem_next member with ⟨_, _, _, _, depth⟩
  exact depth

theorem size_lt_of_mem_next {plan : WalkPlan} {stop below : Stop}
    (member : below ∈ plan.next stop) : below.entry.size < stop.entry.size := by
  rcases mem_next member with ⟨call, children, listing, childMem, _⟩
  have listed := (listing?_eq_some listing).2.2
  exact Nat.lt_of_le_of_lt (Entry.size_le_sizes childMem) (Entry.sizes_lt_size listed)

theorem each_of_mem_next {fetched : MetadataCall → Prop} {listed : ListCall → Prop}
    {plan : WalkPlan} {stop below : Stop} (each : stop.entry.Each fetched listed)
    (member : below ∈ plan.next stop) : below.entry.Each fetched listed := by
  rcases mem_next member with ⟨call, children, listing, childMem, _⟩
  exact (each.group (listing?_eq_some listing).2.2).2 _ childMem

/-- The stops of a walk at and below a stop in the order in which they are visited. -/
def itinerary (plan : WalkPlan) (stop : Stop) : List Stop :=
  stop :: (plan.next stop).attach.flatMap fun below => plan.itinerary below.1
termination_by stop.entry.size
decreasing_by exact size_lt_of_mem_next below.2

theorem itinerary_eq (plan : WalkPlan) (stop : Stop) :
    plan.itinerary stop = stop :: (plan.next stop).flatMap plan.itinerary := by
  rw [itinerary]
  simp [List.flatMap_def]

/-- Induction along the itineraries of a walk. -/
theorem stop_induction {motive : Stop → Prop} (plan : WalkPlan)
    (visit : ∀ stop, (∀ below ∈ plan.next stop, motive below) → motive stop) (stop : Stop) :
    motive stop :=
  visit stop fun below _ => stop_induction plan visit below
termination_by stop.entry.size
decreasing_by exact size_lt_of_mem_next ‹_›

/-- The steps of a walk at and below a stop. -/
def steps (plan : WalkPlan) (stop : Stop) : List WalkStep :=
  (plan.itinerary stop).flatMap plan.stepsAt

theorem steps_eq (plan : WalkPlan) (stop : Stop) :
    plan.steps stop = plan.stepsAt stop ++ (plan.next stop).flatMap plan.steps := by
  unfold steps
  rw [itinerary_eq, List.flatMap_cons, List.flatMap_assoc]

theorem failure_ne_of_outcome_ne {call : MetadataCall}
    (answered : call.outcome ≠ .error .cancelled) : call.failure ≠ some .cancelled := by
  rcases call with ⟨cancels, outcome⟩
  cases outcome <;> simp_all [MetadataCall.failure]

theorem any_isCancelled_eq_false {failure : Option Fault} (answered : failure ≠ some .cancelled) :
    failure.any Fault.isCancelled = false := by
  cases failure with
  | none => rfl
  | some fault =>
      rw [Option.any_some, ← Bool.not_eq_true, Fault.isCancelled_iff]
      rintro rfl
      exact answered rfl

/-- A call that is not made in a cancelled scope is logged, and unless it fails as cancelled, what
it found and what it failed with is noted. -/
theorem follow_calling (stop : Stop) (call : WalkCall) (cancels : Bool) (failure : Option Fault)
    (found : List Snapshot) (course : Course) (steps : List WalkStep) :
    course.follow (stop.calling call cancels failure found :: steps) =
      if course.cancelled then (false, course)
      else
        let course := course.log call stop.entry cancels
        match failure with
        | none => (course.keep found).follow steps
        | some fault =>
          if fault.isCancelled then (false, course)
          else ((course.fail stop call fault).keep found).follow steps := by
  by_cases cancelled : course.cancelled = true
  · simp [Course.follow_cons_of_cancelled cancelled, cancelled]
  · rw [Course.follow_cons (by simpa using cancelled)]
    cases failure with
    | none => simp [cancelled, Stop.calling, Course.after, Course.log, Course.keep]
    | some fault =>
        by_cases ends : fault.isCancelled = true
        · simp [cancelled, ends, Stop.calling, Course.after, Course.log]
        · simp [cancelled, ends, Stop.calling, Course.after, Course.log, Course.fail, Course.keep]

/-- At a depth within the limits, a visit fetches what is to be fetched and answers the query. -/
theorem visit_of_matched {plan : WalkPlan} {stop : Stop}
    (matched : plan.config.matchesAt stop.depth = true) (course : Course) :
    plan.visit stop course =
      match plan.fetch stop (plan.bare stop) { course with visited := course.visited + 1 } with
      | (none, course) => (false, course)
      | (some snapshot, course) => (true, course.keep (plan.select snapshot)) := by
  simp only [visit, matched, bare]
  rcases plan.fetch _ _ _ with ⟨_ | snapshot, course⟩
  · rfl
  · by_cases accepted : plan.query.accepts snapshot = true <;>
      simp [accepted, Course.keep, select]

/-- Without a fetch, the snapshot is kept as it is. -/
theorem fetch_of_not_fetching {plan : WalkPlan} {stop : Stop}
    (matched : plan.config.matchesAt stop.depth = true) (fetching : plan.fetching? stop = none)
    (snapshot : Snapshot) (course : Course) :
    plan.fetch stop snapshot course = (some snapshot, course) := by
  by_cases fetches : plan.fetches = true
  · have metadata : stop.entry.profile.metadata = none := by
      simpa [fetching?, matched, fetches] using fetching
    simp [fetch, metadata]
  · simp [fetch, fetches]

/-- A fetch leaves the snapshot with what the call brought, unless it has to end the walk. -/
theorem fetch_of_fetching {plan : WalkPlan} {stop : Stop} {call : MetadataCall}
    (fetching : plan.fetching? stop = some call) (course : Course) :
    plan.fetch stop (plan.bare stop) course =
      if course.cancelled then (none, course)
      else
        let course := course.log .metadata stop.entry call.cancels
        match call.failure with
        | none => (some (plan.fetched stop call), course)
        | some fault =>
          if fault.isCancelled then (none, course)
          else (some (plan.fetched stop call), course.fail stop .metadata fault) := by
  have wanted : (plan.config.matchesAt stop.depth = true ∧ plan.fetches = true) ∧
      stop.entry.profile.metadata = some call := by
    simpa [fetching?] using fetching
  rcases call with ⟨cancels, outcome⟩
  cases outcome with
  | ok metadata => simp [fetch, wanted, MetadataCall.failure, fetched, Except.toOption]
  | error fault =>
      have unchanged : plan.fetched stop ⟨cancels, .error fault⟩ = plan.bare stop := rfl
      simp [fetch, wanted, MetadataCall.failure, unchanged]

/-- Visiting a stop is following its steps up to the listing. -/
theorem follow_visit (plan : WalkPlan) (stop : Stop) {course : Course}
    (active : course.cancelled = false) (steps : List WalkStep) :
    course.follow (plan.arrival stop ::
      ((plan.fetching? stop).toList.map fun call =>
        stop.calling .metadata call.cancels call.failure (plan.select (plan.fetched stop call))) ++
          steps) =
      match plan.visit stop course with
      | (true, course) => course.follow steps
      | (false, course) => (false, course) := by
  rw [List.cons_append, Course.follow_cons active]
  by_cases matched : plan.config.matchesAt stop.depth = true
  · rw [visit_of_matched matched]
    cases fetching : plan.fetching? stop with
    | none =>
        rw [fetch_of_not_fetching matched fetching]
        simp [arrival, matched, fetching, Course.after, Course.keep]
    | some call =>
        have arrived : course.after (plan.arrival stop) =
            { course with visited := course.visited + 1 } := by
          simp [Course.after, arrival, fetching]
        rw [fetch_of_fetching fetching, arrived]
        simp only [arrival, Option.toList_some, List.map_cons, List.map_nil, List.cons_append,
          List.nil_append, follow_calling, active]
        cases call.failure with
        | none => simp
        | some fault => by_cases ends : fault.isCancelled = true <;> simp [ends]
  · have fetching : plan.fetching? stop = none := by simp [fetching?, matched]
    simp [visit, matched, fetching, Course.after, arrival]

/-- Descending from a stop is following the step that lists the children. -/
theorem follow_descend (plan : WalkPlan) (stop : Stop) (course : Course)
    (steps : List WalkStep) :
    course.follow (((plan.listing? stop).toList.map fun (call, _) =>
        stop.calling .list call.cancels call.failure []) ++ steps) =
      match plan.descend stop course with
      | (some _, course) => course.follow steps
      | (none, course) => (false, course) := by
  unfold descend
  cases listing : plan.listing? stop with
  | none => simp
  | some listed =>
      rcases listed with ⟨⟨cancels, failure⟩, children⟩
      simp only [Option.toList_some, List.map_cons, List.map_nil, List.cons_append,
        List.nil_append, follow_calling]
      by_cases cancelled : course.cancelled = true
      · simp [cancelled]
      · cases failure with
        | none => simp [cancelled, Course.keep]
        | some fault =>
            by_cases ends : fault.isCancelled = true <;> simp [cancelled, ends, Course.keep]

theorem eq_next_of_descend {plan : WalkPlan} {stop : Stop} {course after : Course}
    {stops : List Stop} (descended : plan.descend stop course = (some stops, after)) :
    stops = plan.next stop := by
  unfold descend at descended
  unfold next
  cases listing : plan.listing? stop with
  | none => simp_all
  | some listed =>
      rcases listed with ⟨⟨cancels, failure⟩, children⟩
      simp only [listing] at descended
      split at descended
      · simp at descended
      · cases failure with
        | none => simp_all
        | some fault => by_cases ends : fault.isCancelled = true <;> simp_all

/-- Following the steps of a stack visits the stop on top, descends from it, and follows the steps
of what is below it and of the rest of the stack. -/
theorem follow_stack (plan : WalkPlan) (stop : Stop) (stack : List Stop) {course : Course}
    (active : course.cancelled = false) :
    course.follow ((stop :: stack).flatMap plan.steps) =
      match plan.visit stop course with
      | (false, course) => (false, course)
      | (true, course) =>
        match plan.descend stop course with
        | (none, course) => (false, course)
        | (some _, course) => course.follow ((plan.next stop ++ stack).flatMap plan.steps) := by
  rw [List.flatMap_cons, steps_eq, stepsAt, List.append_assoc, List.append_assoc,
    follow_visit plan stop active]
  rcases plan.visit stop course with ⟨_ | _, visited⟩
  · rfl
  · simp only [follow_descend, List.flatMap_append]
    rcases plan.descend stop visited with ⟨_ | stops, descended⟩
    · rfl
    · rfl

/-- One turn of a walk: the stop on top of the stack is visited and gives way to those below it. -/
theorem run_cons (plan : WalkPlan) (stop : Stop) (stack : List Stop) {course : Course}
    (active : course.cancelled = false) :
    plan.run (stop :: stack) course =
      match plan.visit stop course with
      | (false, course) => (false, course)
      | (true, course) =>
        match plan.descend stop course with
        | (none, course) => (false, course)
        | (some stops, course) => plan.run (stops ++ stack) course := by
  rw [run]
  simp only [active, Bool.false_eq_true, if_false]
  rcases plan.visit stop course with ⟨_ | _, visited⟩
  · rfl
  · dsimp only
    split <;> next descended => simp [descended]

/-- Running a walk on a stack is following the steps at and below the stops on it. -/
theorem run_eq_follow (plan : WalkPlan) (stack : List Stop) (course : Course) :
    plan.run stack course = course.follow (stack.flatMap plan.steps) := by
  -- The stops above the rest of the stack take their steps first, whatever the rest is, so the
  -- recursion of `run` is the induction and no invariant relates the stack to the tree.
  induction stack, course using WalkPlan.run.induct plan with
  | case1 course => simp [run]
  | case2 course stop stack cancelled =>
      rw [List.flatMap_cons, steps_eq, run]
      simp [stepsAt, Course.follow_cons_of_cancelled cancelled, cancelled]
  | case3 course stop stack active after visited =>
      have active : course.cancelled = false := by simpa using active
      rw [follow_stack plan stop stack active, run_cons plan stop stack active, visited]
  | case4 course stop stack active after visited last descended =>
      have active : course.cancelled = false := by simpa using active
      rw [follow_stack plan stop stack active, run_cons plan stop stack active, visited]
      simp only [descended]
  | case5 course stop stack active after visited stops last descended ih =>
      have active : course.cancelled = false := by simpa using active
      rw [follow_stack plan stop stack active, run_cons plan stop stack active, visited]
      simp only [descended, ih, ← eq_next_of_descend descended, List.flatMap_append]

theorem each_of_mem_itinerary {fetched : MetadataCall → Prop} {listed : ListCall → Prop}
    {plan : WalkPlan} {stop visited : Stop} (each : stop.entry.Each fetched listed)
    (member : visited ∈ plan.itinerary stop) : visited.entry.Each fetched listed := by
  induction stop using plan.stop_induction with
  | visit stop ih =>
      rw [itinerary_eq, List.mem_cons, List.mem_flatMap] at member
      rcases member with rfl | ⟨below, belowMem, member⟩
      · exact each
      · exact ih below belowMem (each_of_mem_next each belowMem) member

/-- A step is an arrival, a fetch of the metadata of an entry or a listing of its children. -/
theorem mem_stepsAt {plan : WalkPlan} {stop : Stop} {step : WalkStep}
    (member : step ∈ plan.stepsAt stop) :
    step = plan.arrival stop ∨
      (∃ call, stop.entry.profile.metadata = some call ∧ step =
        stop.calling .metadata call.cancels call.failure (plan.select (plan.fetched stop call))) ∨
      ∃ call children, stop.entry.group? = some (call, children) ∧
        step = stop.calling .list call.cancels call.failure [] := by
  simp only [stepsAt, List.mem_append, List.mem_cons, List.mem_map, Option.mem_toList] at member
  rcases member with (arrives | ⟨call, fetching, rfl⟩) | ⟨⟨call, children⟩, listing, rfl⟩
  · exact .inl arrives
  · refine .inr (.inl ⟨call, ?_, rfl⟩)
    unfold fetching? at fetching
    split at fetching
    · exact fetching
    · cases fetching
  · exact .inr (.inr ⟨call, children, (listing?_eq_some listing).2.2, rfl⟩)

/-- Where all calls in a tree leave the scope alone, so do the steps of a walk through it. -/
theorem cancels_of_mem_steps {plan : WalkPlan} {stop : Stop} (calm : stop.entry.Calm)
    {step : WalkStep} (member : step ∈ plan.steps stop) : step.cancels = false := by
  rcases List.mem_flatMap.mp member with ⟨visited, visitedMem, member⟩
  have calm := each_of_mem_itinerary calm visitedMem
  rcases mem_stepsAt member with rfl | ⟨call, metadata, rfl⟩ | ⟨call, children, group, rfl⟩
  · rfl
  · exact calm.metadata metadata
  · exact (calm.group group).1

/-- Where no call in a tree fails as cancelled, no step of a walk through it gives up. -/
theorem givesUp_of_mem_steps {plan : WalkPlan} {stop : Stop} (answering : stop.entry.Answering)
    {step : WalkStep} (member : step ∈ plan.steps stop) : step.givesUp = false := by
  rcases List.mem_flatMap.mp member with ⟨visited, visitedMem, member⟩
  have answering := each_of_mem_itinerary answering visitedMem
  rcases mem_stepsAt member with rfl | ⟨call, metadata, rfl⟩ | ⟨call, children, group, rfl⟩
  · rfl
  · exact any_isCancelled_eq_false (failure_ne_of_outcome_ne (answering.metadata metadata))
  · exact any_isCancelled_eq_false (answering.group group).1

/-- A walk down to the children of the root that fetches metadata and finds everything. -/
def specimen : WalkPlan :=
  ⟨.core, { maxdepth := some 1 }, ⟨.always true, ⟨0, 0⟩, true⟩⟩

end WalkPlan

/-- A walk through a tree in which no call fails as cancelled takes its steps up to the first that
cancels the scope. It brings the findings of all steps if no other step comes after that one. -/
theorem walk_of_answering {plan : WalkPlan} {root : Entry}
    (valid : plan.config.validate = .ok ()) (answering : root.Answering) :
    walk plan root false =
      { outcome :=
          if (plan.steps (.start root)).dropLast.all (fun step => !step.cancels) then
            .ok (.join ((plan.steps (.start root)).map WalkStep.finding))
          else .error (.fault .cancelled)
        calls := (WalkStep.throughCancel (plan.steps (.start root))).filterMap WalkStep.call } := by
  have answering : (Stop.start root).entry.Answering := answering
  have answered : ∀ step ∈ plan.steps (.start root), step.givesUp = false := fun _ member =>
    WalkPlan.givesUp_of_mem_steps answering member
  have followed := @Course.follow_of_answered _ answered {} rfl
  simp only [walk, valid, plan.run_eq_follow, List.flatMap_singleton, followed]
  by_cases quiet : (plan.steps (.start root)).dropLast.all (fun step => !step.cancels) = true
  · simp only [quiet, if_true, Course.calls_foldl_after, Course.report_foldl_after]
    rw [WalkStep.throughCancel_eq_self (by simpa using quiet)]
    have nothing : Course.report {} = {} := rfl
    simp [nothing]
  · simp [quiet, Course.calls_foldl_after]

/-- A walk through a tree whose calls leave the scope alone comes to its end. -/
theorem walk_of_calm {plan : WalkPlan} {root : Entry} (valid : plan.config.validate = .ok ())
    (calm : root.Calm) (answering : root.Answering) :
    walk plan root false =
      { outcome := .ok (.join ((plan.steps (.start root)).map WalkStep.finding))
        calls := (plan.steps (.start root)).filterMap WalkStep.call } := by
  have calm : (Stop.start root).entry.Calm := calm
  have quiet : ∀ step ∈ (plan.steps (.start root)).dropLast, step.cancels = false :=
    fun step member => plan.cancels_of_mem_steps calm (List.dropLast_subset _ member)
  rw [walk_of_answering valid answering, WalkStep.throughCancel_eq_self quiet]
  simp only [List.all_eq_true, Bool.not_eq_true', if_pos quiet]

end EntryTree
