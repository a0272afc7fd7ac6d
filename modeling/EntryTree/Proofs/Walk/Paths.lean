import EntryTree.Proofs.Text.Characters
import EntryTree.Proofs.Walk.Itinerary
import Mathlib.Data.List.Flatten
import Mathlib.Data.List.Nodup

/-!
# Paths of visited entries

A walk builds the path of a child from the path of its parent. Where the names below the root are
not empty and have no slash in them, the path it builds for an entry is written with the names on
the way down to it, and from the path these names can be told again. If moreover the children of
each entry have different names, no two entries of the tree have the same path, and so none of those
that a walk visits.

The names on the way down to a stop are an invariant of the itinerary: each stop that follows below
another has one more name.
-/

namespace EntryTree

/-- The path that is written with the names on the way down from the root. -/
def pathOf (names : List String) : String :=
  "/" ++ "/".intercalate names

/-- A name that can be told again from a path it is a part of. -/
def IsSegment (name : String) : Prop :=
  name ≠ "" ∧ '/' ∉ name.toList

instance (name : String) : Decidable (IsSegment name) :=
  inferInstanceAs (Decidable (_ ∧ _))

/-! ## Writing paths -/

section Writing

variable {name : String} {names others : List String}

/-- Names in a row, each behind a slash. -/
def slashed (names : List String) : List Char :=
  names.flatMap fun name => '/' :: name.toList

theorem slashed_cons (name : String) (names : List String) :
    slashed (name :: names) = '/' :: (name.toList ++ slashed names) :=
  List.flatMap_cons

theorem slashed_append (names others : List String) :
    slashed (names ++ others) = slashed names ++ slashed others :=
  List.flatMap_append

theorem toList_pathOf (present : names ≠ []) : (pathOf names).toList = slashed names := by
  rw [pathOf, String.toList_append]
  induction names with
  | nil => contradiction
  | cons name names ih =>
      cases names with
      | nil => simp [slashed]
      | cons next names =>
          rw [slashed_cons, ← ih (List.cons_ne_nil next names), String.intercalate_cons_cons]
          simp

theorem slashed_inj (segments : ∀ name ∈ names, IsSegment name)
    (segmentsOthers : ∀ name ∈ others, IsSegment name) (same : slashed names = slashed others) :
    names = others := by
  induction names generalizing others with
  | nil =>
      cases others with
      | nil => rfl
      | cons other others => contradiction
  | cons name names ih =>
      cases others with
      | nil => contradiction
      | cons other others =>
          rw [List.forall_mem_cons] at segments segmentsOthers
          simp only [slashed_cons, List.cons.injEq, true_and] at same
          -- Up to the next slash there is the name and nothing else.
          have first : ∀ {name : String} (names : List String), IsSegment name →
              (name.toList ++ slashed names).takeWhile (· != '/') = name.toList := by
            intro name names segment
            have stops : ∀ c ∈ (slashed names).head?, (c != '/') = false := by
              cases names with
              | nil => rintro _ ⟨⟩
              | cons next names =>
                  rintro _ ⟨⟩
                  rfl
            rw [List.takeWhile_append_of_pos (Text.bne_of_not_mem segment.2),
              (Text.scan_of_head stops).1, List.append_nil]
          have here : name.toList = other.toList := by
            rw [← first names segments.1, same, first others segmentsOthers.1]
          rcases String.toList_inj.mp here with rfl
          rw [ih segments.2 segmentsOthers.2 (List.append_cancel_left same)]

theorem eq_nil_of_pathOf (segments : ∀ name ∈ names, IsSegment name)
    (same : pathOf names = pathOf []) : names = [] := by
  cases names with
  | nil => rfl
  | cons name names =>
      have spelled := congrArg String.toList same
      have root : (pathOf []).toList = ['/'] := by decide
      rw [toList_pathOf (List.cons_ne_nil name names), slashed_cons, root, List.cons.injEq,
        List.append_eq_nil_iff, String.toList_eq_nil_iff] at spelled
      exact absurd spelled.2.1 (segments name List.mem_cons_self).1

/-- Names that can be told from a path are told from it. -/
theorem pathOf_inj (segments : ∀ name ∈ names, IsSegment name)
    (segmentsOthers : ∀ name ∈ others, IsSegment name) (same : pathOf names = pathOf others) :
    names = others := by
  by_cases none : names = []
  · rcases none with rfl
    exact (eq_nil_of_pathOf segmentsOthers same.symm).symm
  by_cases noneOthers : others = []
  · rcases noneOthers with rfl
    exact eq_nil_of_pathOf segments same
  · apply slashed_inj segments segmentsOthers
    rw [← toList_pathOf none, ← toList_pathOf noneOthers, same]

theorem getLast?_slashed (segments : ∀ name ∈ names, IsSegment name) :
    (slashed names).getLast? ≠ some '/' := by
  rcases List.eq_nil_or_concat' names with rfl | ⟨before, last, rfl⟩
  · simp [slashed]
  rcases segments last (by simp) with ⟨filled, free⟩
  have present : last.toList ≠ [] := mt String.toList_eq_nil_iff.mp filled
  intro ends
  rw [slashed_append, slashed_cons, List.getLast?_append_of_ne_nil _ (List.cons_ne_nil _ _),
    slashed, List.flatMap_nil, List.append_nil, List.getLast?_cons_of_ne_nil present] at ends
  exact free (List.mem_of_getLast? ends)

/-- The path of a child goes on with the name of the child. -/
theorem childPath_pathOf (segments : ∀ name ∈ names, IsSegment name) (name : String) :
    childPath (pathOf names) name = pathOf (names ++ [name]) := by
  by_cases none : names = []
  · rcases none with rfl
    have root : (pathOf []).toList.getLast? = some '/' := by decide
    rw [childPath, if_pos root]
    simp [pathOf]
  · have path := toList_pathOf none
    rw [childPath, path, if_neg (getLast?_slashed segments), ← String.toList_inj,
      toList_pathOf (by simp), slashed_append, String.toList_append, String.toList_append, path]
    simp [slashed]

end Writing

namespace Entry

variable {root entry other : Entry} {names : List String}

/-! ## Ways down a tree -/

/-- The names lead from an entry down to another one in its tree, from child to child. -/
inductive Descends : Entry → List String → Entry → Prop
  | here {entry : Entry} : Descends entry [] entry
  | through {entry child inner : Entry} {call : ListCall} {children : List Entry}
      {names : List String} (group : entry.group? = some (call, children))
      (member : child ∈ children) (descends : Descends child names inner) :
      Descends entry (child.name :: names) inner

/-- The names below an entry can be told again from a path, and the children of one entry have
different names. -/
def Navigable (root : Entry) : Prop :=
  ∀ names entry call children, root.Descends names entry →
    entry.group? = some (call, children) →
      (children.map name).Nodup ∧ ∀ child ∈ children, IsSegment child.name

theorem navigable_of_leaf (leaf : root.group? = none) : root.Navigable := by
  intro names entry call children descends group
  cases descends with
  | here =>
      rw [leaf] at group
      contradiction
  | through outer =>
      rw [leaf] at outer
      contradiction

theorem navigable_of_group {call : ListCall} {children : List Entry}
    (group : root.group? = some (call, children)) (distinct : (children.map name).Nodup)
    (segments : ∀ child ∈ children, IsSegment child.name)
    (below : ∀ child ∈ children, child.Navigable) : root.Navigable := by
  intro names entry call' children' descends group'
  cases descends with
  | here =>
      rw [group] at group'
      rcases Prod.mk.inj (Option.some.inj group') with ⟨_, rfl⟩
      exact ⟨distinct, segments⟩
  | through outer member descends =>
      rw [group] at outer
      rcases Prod.mk.inj (Option.some.inj outer) with ⟨_, rfl⟩
      exact below _ member _ _ _ _ descends group'

/-- From where names have led to, one more leads to a child. -/
theorem Descends.child (descends : root.Descends names entry) {call : ListCall}
    {children : List Entry} (group : entry.group? = some (call, children)) {child : Entry}
    (member : child ∈ children) : root.Descends (names ++ [child.name]) child := by
  induction descends with
  | here => exact .through group member .here
  | through outer inside descends ih => exact .through outer inside (ih group)

theorem Navigable.child (navigable : root.Navigable) {call : ListCall} {children : List Entry}
    (group : root.group? = some (call, children)) {child : Entry} (member : child ∈ children) :
    child.Navigable := by
  intro names entry call' children' descends
  exact navigable _ entry call' children' (.through group member descends)

theorem Descends.segments (descends : root.Descends names entry) (navigable : root.Navigable) :
    ∀ name ∈ names, IsSegment name := by
  induction descends with
  | here =>
      intro name member
      cases member
  | through group member descends ih =>
      rw [List.forall_mem_cons]
      have children := (navigable _ _ _ _ .here group).2
      exact ⟨children _ member, ih (navigable.child group member)⟩

/-- Names lead to one entry only. -/
theorem Descends.unique (descends : root.Descends names entry)
    (again : root.Descends names other) (navigable : root.Navigable) : entry = other := by
  induction descends with
  | here =>
      cases again with
      | here => rfl
  | @through root child inner call children names group member descends ih =>
      generalize named : child.name = name at again
      cases again with
      | @through _ child' _ _ _ _ group' member' descends' =>
          rw [group] at group'
          rcases Prod.mk.inj (Option.some.inj group') with ⟨_, rfl⟩
          have distinct := (navigable _ _ _ _ .here group).1
          rcases List.inj_on_of_nodup_map distinct member member' named with rfl
          exact ih descends' (navigable.child group member)

end Entry

/-! ## Visited stops -/

/-- A stop stands where the names lead from the root, with the path that is written with them. -/
structure Stop.StandsAt (root : Entry) (names : List String) (stop : Stop) : Prop where
  descends : root.Descends names stop.entry
  path : stop.path = pathOf names
  depth : stop.depth = names.length

namespace WalkPlan

variable {plan : WalkPlan} {root : Entry} {stop below visited : Stop} {names : List String}

theorem standsAt_of_mem_next (navigable : root.Navigable) (stands : stop.StandsAt root names)
    (member : below ∈ plan.next stop) : below.StandsAt root (names ++ [below.entry.name]) := by
  unfold next at member
  split at member
  · next cancels children listing =>
      simp only [Stop.children, List.mem_map] at member
      rcases member with ⟨child, inside, rfl⟩
      have group := (listing?_eq_some listing).2.2
      exact
        { descends := stands.descends.child group inside
          path := by
            rw [stands.path, childPath_pathOf (stands.descends.segments navigable)]
          depth := by rw [stands.depth, List.length_append, List.length_singleton] }
  · cases member

/-- At and below a stop, the names of a stop begin with those of the first one. -/
theorem standsAt_of_mem_itinerary (navigable : root.Navigable) (stands : stop.StandsAt root names)
    (member : visited ∈ plan.itinerary stop) :
    ∃ more, visited.StandsAt root (names ++ more) := by
  induction stop using plan.stop_induction generalizing names with
  | visit stop ih =>
      rw [itinerary_eq, List.mem_cons, List.mem_flatMap] at member
      rcases member with rfl | ⟨below, belowMem, member⟩
      · exact ⟨[], by rwa [List.append_nil]⟩
      · rcases ih below belowMem (standsAt_of_mem_next navigable stands belowMem) member with
          ⟨more, standsBelow⟩
        exact ⟨below.entry.name :: more, by rwa [List.append_assoc] at standsBelow⟩

theorem names_of_path_eq (navigable : root.Navigable) {names others : List String}
    {first second : Stop} (stands : first.StandsAt root names)
    (standsOther : second.StandsAt root others) (same : first.path = second.path) :
    names = others := by
  rw [stands.path, standsOther.path] at same
  exact pathOf_inj (stands.descends.segments navigable) (standsOther.descends.segments navigable)
    same

theorem pairwise_next (navigable : root.Navigable) (stands : stop.StandsAt root names) :
    (plan.next stop).Pairwise fun first second => first.entry.name ≠ second.entry.name := by
  unfold next
  split
  · next cancels children listing =>
      have group := (listing?_eq_some listing).2.2
      have distinct := (navigable names stop.entry _ children stands.descends group).1
      rw [Stop.children, List.pairwise_map]
      exact List.pairwise_map.mp distinct
  · exact .nil

/-- A walk comes to no path twice. -/
theorem nodup_paths (navigable : root.Navigable) (stands : stop.StandsAt root names) :
    ((plan.itinerary stop).map Stop.path).Nodup := by
  induction stop using plan.stop_induction generalizing names with
  | visit stop ih =>
      rw [itinerary_eq, List.map_cons, List.map_flatMap, List.nodup_cons, List.nodup_flatMap]
      have standsNext : ∀ below ∈ plan.next stop, _ := fun below member =>
        standsAt_of_mem_next navigable stands member
      refine ⟨?_, fun below member => ih below member (standsNext below member), ?_⟩
      · intro again
        rcases List.mem_flatMap.mp again with ⟨below, belowMem, again⟩
        rcases List.mem_map.mp again with ⟨visited, member, same⟩
        rcases standsAt_of_mem_itinerary navigable (standsNext below belowMem) member with
          ⟨more, standsVisited⟩
        have longer := names_of_path_eq navigable standsVisited stands same
        simp at longer
      · apply (pairwise_next navigable stands).imp_of_mem
        intro first second firstMem secondMem different path inFirst inSecond
        rcases List.mem_map.mp inFirst with ⟨visited, member, rfl⟩
        rcases List.mem_map.mp inSecond with ⟨other, memberOther, same⟩
        rcases standsAt_of_mem_itinerary navigable (standsNext first firstMem) member with
          ⟨more, standsVisited⟩
        rcases standsAt_of_mem_itinerary navigable (standsNext second secondMem) memberOther with
          ⟨moreOther, standsOther⟩
        have alike := names_of_path_eq navigable standsOther standsVisited same
        simp only [List.append_assoc, List.append_cancel_left_eq, List.singleton_append,
          List.cons.injEq] at alike
        exact different alike.1.symm

/-! ## What is reported of a stop -/

/-- What the steps at a stop bring. -/
def brought (plan : WalkPlan) (stop : Stop) : WalkReport :=
  .join ((plan.stepsAt stop).map WalkStep.finding)

theorem join_findings_steps (plan : WalkPlan) (stop : Stop) :
    .join ((plan.steps stop).map WalkStep.finding) =
      WalkReport.join ((plan.itinerary stop).map plan.brought) := by
  rw [steps, List.map_flatMap, WalkReport.join_flatMap]
  rfl

theorem visited_calling (stop : Stop) (call : WalkCall) (cancels : Bool) (failure : Option Fault)
    (found : List Snapshot) : (stop.calling call cancels failure found).finding.visited = 0 := by
  rw [Stop.calling]
  dsimp only
  split <;> rfl

theorem visited_brought (plan : WalkPlan) (stop : Stop) : (plan.brought stop).visited = 1 := by
  rw [brought, stepsAt]
  cases plan.fetching? stop <;> cases plan.listing? stop <;>
    simp [WalkReport.join, visited_calling, arrival]

theorem found_calling_sublist (stop : Stop) (call : WalkCall) (cancels : Bool)
    (failure : Option Fault) (found : List Snapshot) :
    (stop.calling call cancels failure found).finding.found.Sublist found := by
  rw [Stop.calling]
  dsimp only
  split
  · exact List.nil_sublist found
  · exact List.Sublist.refl found

theorem select_sublist (plan : WalkPlan) (snapshot : Snapshot) :
    (plan.select snapshot).Sublist [snapshot] :=
  List.filter_sublist

theorem found_arrival_sublist (plan : WalkPlan) (stop : Stop) :
    (plan.arrival stop).finding.found.Sublist
      (if (plan.fetching? stop).isNone then [plan.bare stop] else []) := by
  rw [arrival]
  dsimp only
  split
  · next answered =>
      rw [Bool.and_eq_true] at answered
      rw [if_pos answered.2]
      exact plan.select_sublist _
  · exact List.nil_sublist _

theorem found_listing (plan : WalkPlan) (stop : Stop) :
    ((plan.listing? stop).toList.map fun (call, _) =>
      stop.calling .list call.cancels call.failure []).flatMap (·.finding.found) = [] := by
  cases plan.listing? stop with
  | none => rfl
  | some listed => simpa using found_calling_sublist stop .list _ _ []

/-- At a stop one snapshot is found at most, and it is the snapshot of the stop. -/
theorem found_brought_sublist (plan : WalkPlan) (stop : Stop) :
    ∃ metadata, (plan.brought stop).found.Sublist [{ plan.bare stop with metadata }] := by
  have arriving := plan.found_arrival_sublist stop
  rw [brought, WalkReport.found_join, List.flatMap_map, stepsAt, List.flatMap_append,
    found_listing, List.append_nil, List.flatMap_cons]
  cases fetching : plan.fetching? stop with
  | none =>
      rw [fetching] at arriving
      refine ⟨none, ?_⟩
      simp only [Option.toList_none, List.map_nil, List.flatMap_nil, List.append_nil]
      exact arriving
  | some call =>
      have nothing : (plan.arrival stop).finding.found = [] := by simpa [fetching] using arriving
      refine ⟨call.outcome.toOption, ?_⟩
      simp only [nothing, Option.toList_some, List.map_cons, List.map_nil, List.flatMap_cons,
        List.flatMap_nil, List.append_nil, List.nil_append]
      exact (found_calling_sublist stop .metadata _ _ _).trans
        (plan.select_sublist (plan.fetched stop call))

theorem path_of_mem_errors {error : WalkError} (member : error ∈ (plan.brought stop).errors) :
    error.path = stop.path := by
  have calling : ∀ call cancels failure found,
      error ∈ (stop.calling call cancels failure found).finding.errors →
        error.path = stop.path := by
    intro call cancels failure found member
    rw [Stop.calling] at member
    dsimp only at member
    split at member
    · cases member
    · rcases List.mem_map.mp member with ⟨fault, _, rfl⟩
      rfl
  rw [brought, WalkReport.errors_join, List.flatMap_map] at member
  rcases List.mem_flatMap.mp member with ⟨step, stepMem, member⟩
  rcases mem_stepsAt stepMem with rfl | ⟨call, _, rfl⟩ | ⟨call, children, _, rfl⟩
  · cases member
  · exact calling _ _ _ _ member
  · exact calling _ _ _ _ member

end WalkPlan

/-- Steps that were all taken led to the course after them. -/
theorem Course.eq_foldl_of_follow {course last : Course} {steps : List WalkStep}
    (followed : course.follow steps = (true, last)) : last = steps.foldl Course.after course := by
  induction steps generalizing course with
  | nil => exact (Prod.mk.inj followed).2.symm
  | cons step steps ih =>
      rw [follow] at followed
      split at followed
      · cases followed
      split at followed
      · cases followed
      · exact ih followed

/-- What a walk reports is what all its steps bring, however its calls behave. -/
theorem report_of_walk {plan : WalkPlan} {root : Entry} {cancelled : Bool} {report : WalkReport}
    (reported : (walk plan root cancelled).outcome = .ok report) :
    report = .join ((plan.itinerary (.start root)).map plan.brought) := by
  rw [walk] at reported
  split at reported
  · cases reported
  split at reported
  · next course finished =>
      rcases Except.ok.inj reported with rfl
      rw [plan.run_eq_follow, List.flatMap_singleton] at finished
      rw [Course.eq_foldl_of_follow finished, Course.report_foldl_after,
        plan.join_findings_steps]
      exact WalkReport.empty_append _
  · cases reported

/-- A walk that brings a report has visited an entry for each stop of its itinerary. The snapshots
that it found are snapshots of these entries, in the order of the visits, and the errors lie at
them. The path of each is written with the names on the way down to it, and its depth is the number
of these names. No two of them have the same path, and in the whole tree a path tells the entry. -/
theorem walk_paths (plan : WalkPlan) (root : Entry) (cancelled : Bool) (report : WalkReport)
    (navigable : root.Navigable) (reported : (walk plan root cancelled).outcome = .ok report) :
    let visited := plan.itinerary (.start root)
    report.visited = visited.length ∧
    (report.found.map fun snapshot => (snapshot.path, snapshot.name, snapshot.depth)).Sublist
      (visited.map fun stop => (stop.path, stop.entry.name, stop.depth)) ∧
    (∀ error ∈ report.errors, ∃ stop ∈ visited, error.path = stop.path) ∧
    (∀ stop ∈ visited, ∃ names, root.Descends names stop.entry ∧ stop.path = pathOf names ∧
      stop.depth = names.length) ∧
    (visited.map Stop.path).Nodup ∧
    ∀ names others first second, root.Descends names first → root.Descends others second →
      pathOf names = pathOf others → names = others ∧ first = second := by
  intro visited
  have start : Stop.StandsAt root [] (.start root) := ⟨.here, rfl, rfl⟩
  rw [report_of_walk reported]
  refine ⟨?_, ?_, ?_, ?_, plan.nodup_paths navigable start, ?_⟩
  · rw [WalkReport.visited_join, List.length_map]
    simp [plan.visited_brought]
  · rw [WalkReport.found_join, List.flatMap_map, List.map_flatMap, ← List.flatMap_pure_eq_map]
    apply List.Sublist.flatMap_right
    intro stop _
    rcases plan.found_brought_sublist stop with ⟨metadata, found⟩
    exact found.map _
  · intro error member
    rw [WalkReport.errors_join, List.flatMap_map] at member
    rcases List.mem_flatMap.mp member with ⟨stop, stopMem, member⟩
    exact ⟨stop, stopMem, WalkPlan.path_of_mem_errors member⟩
  · intro stop member
    rcases WalkPlan.standsAt_of_mem_itinerary navigable start member with ⟨names, stands⟩
    exact ⟨names, stands.descends, stands.path, stands.depth⟩
  · intro names others first second descends descendsOther same
    rcases pathOf_inj (descends.segments navigable) (descendsOther.segments navigable) same with rfl
    exact ⟨rfl, descends.unique descendsOther navigable⟩

/-- Two entries of one name, of which one lies deeper. The name of the root does not matter. -/
theorem walk_paths_namesakes :
    let root : Entry := .group { name := "a/b" } {}
      [.group { name := "logs" } {} [.leaf { name := "app" }], .leaf { name := "app" }]
    let plan : WalkPlan := ⟨.core, { mindepth := 1 }, ⟨.always true, ⟨0, 0⟩, false⟩⟩
    root.Navigable ∧ ∃ report, (walk plan root false).outcome = .ok report ∧
      report.visited = 4 ∧
      (report.found.map fun snapshot => (snapshot.path, snapshot.name, snapshot.depth)).Sublist
        [("/", "a/b", 0), ("/logs", "logs", 1), ("/logs/app", "app", 2), ("/app", "app", 1)] ∧
      ["/", "/logs", "/logs/app", "/app"].Nodup := by
  intro root plan
  have leaf : (Entry.leaf { name := "app" }).Navigable := Entry.navigable_of_leaf rfl
  have logs : (Entry.group { name := "logs" } {} [.leaf { name := "app" }]).Navigable := by
    apply Entry.navigable_of_group rfl
    · decide
    · decide
    · simpa using leaf
  have navigable : root.Navigable := by
    apply Entry.navigable_of_group rfl
    · decide
    · decide
    · simpa using ⟨logs, leaf⟩
  have calm : root.Calm := by simp [root, Entry.Calm, Entry.Each, Entry.EachOf]
  have answering : root.Answering := by simp [root, Entry.Answering, Entry.Each, Entry.EachOf]
  have reported : (walk plan root false).outcome = _ :=
    congrArg WalkResult.outcome (walk_of_calm rfl calm answering)
  rcases walk_paths plan root false _ navigable reported with ⟨visited, found, _, _, distinct, _⟩
  have places : (plan.itinerary (.start root)).map
      (fun stop => (stop.path, stop.entry.name, stop.depth)) =
      [("/", "a/b", 0), ("/logs", "logs", 1), ("/logs/app", "app", 2), ("/app", "app", 1)] := by
    decide +kernel
  have paths : (plan.itinerary (.start root)).map Stop.path =
      ["/", "/logs", "/logs/app", "/app"] := by
    have same := congrArg (List.map Prod.fst) places
    rw [List.map_map] at same
    exact same
  have length := congrArg List.length places
  rw [List.length_map] at length
  exact ⟨navigable, _, reported, visited.trans length, places ▸ found, paths ▸ distinct⟩

end EntryTree
