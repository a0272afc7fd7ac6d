import EntryTree.Query.Basic
import EntryTree.Walk.Config
import EntryTree.Walk.Report

/-!
# Walking the tree

A walk visits the entries of a tree in pre-order, children in the order in which they are listed.
The entries still to be visited are kept on a stack. Whether the scope of the walk is cancelled is
looked at before every visit and before every call on an entry; a call may itself cancel the scope
and still return.

The calls are logged, whether or not the walk comes to its end.
-/

namespace EntryTree

/-- An entry to visit, its path and its depth. -/
structure Stop where
  entry : Entry
  path : String
  depth : Nat

/-- The path of a child. -/
def childPath (parent name : String) : String :=
  if parent.toList.getLast? = some '/' then parent ++ name else parent ++ "/" ++ name

/-- The stops for the children of a stop. -/
def Stop.children (stop : Stop) (entries : List Entry) : List Stop :=
  entries.map fun entry => ⟨entry, childPath stop.path entry.name, stop.depth + 1⟩

/-- The course of a walk: the calls that were made, whether the scope is cancelled, and what was
found, the lists newest first. -/
structure Course where
  calls : List (WalkCall × String) := []
  cancelled : Bool := false
  visited : Nat := 0
  found : List Snapshot := []
  errors : List WalkError := []

namespace Course

/-- Logs a call on an entry, which may cancel the scope. -/
def log (course : Course) (call : WalkCall) (entry : Entry) (cancels : Bool) : Course :=
  { course with
    calls := (call, entry.name) :: course.calls
    cancelled := course.cancelled || cancels }

/-- Notes that a call failed. -/
def fail (course : Course) (stop : Stop) (call : WalkCall) (fault : Fault) : Course :=
  { course with errors := ⟨stop.path, call, fault⟩ :: course.errors }

/-- The report of a course that came to its end. -/
def report (course : Course) : WalkReport :=
  ⟨course.visited, course.found.reverse, course.errors.reverse⟩

end Course

/-- What a walk does with the entries it visits. -/
structure WalkPlan where
  registry : ActionRegistry
  config : WalkConfig
  query : Query

namespace WalkPlan

/-- Whether metadata is fetched. -/
def fetches (plan : WalkPlan) : Bool :=
  plan.config.fetchMetadata || plan.query.needsMetadata

/-- Fetches the metadata of a stop, if it is wanted and there is any, and puts it into the
snapshot. The result is `none` if the walk has to end. -/
def fetch (plan : WalkPlan) (stop : Stop) (snapshot : Snapshot) (course : Course) :
    Option Snapshot × Course :=
  match plan.fetches, stop.entry.profile.metadata with
  | true, some call =>
    if course.cancelled then (none, course)
    else
      let course := course.log .metadata stop.entry call.cancels
      match call.outcome with
      | .ok metadata => (some { snapshot with metadata := some metadata }, course)
      | .error fault =>
        if fault.isCancelled then (none, course)
        else (some snapshot, course.fail stop .metadata fault)
  | _, _ => (some snapshot, course)

/-- Matches the snapshot of a stop, if its depth is within the limits. The result says whether the
walk goes on. -/
def visit (plan : WalkPlan) (stop : Stop) (course : Course) : Bool × Course :=
  let course := { course with visited := course.visited + 1 }
  if !plan.config.matchesAt stop.depth then (true, course)
  else
    match plan.fetch stop (.take plan.registry stop.entry stop.path stop.depth) course with
    | (none, course) => (false, course)
    | (some snapshot, course) =>
      if plan.query.accepts snapshot then
        (true, { course with found := snapshot :: course.found })
      else (true, course)

/-- How the children of a stop are listed, if they are to be visited: the entry has to serve the
listing of children, and to have any. -/
def listing? (plan : WalkPlan) (stop : Stop) : Option (ListCall × List Entry) :=
  if plan.config.descendsFrom stop.depth && Action.list.isSupportedOn stop.entry then
    stop.entry.group?
  else none

/-- Lists the children of a stop. The result is `none` if the walk has to end. -/
def descend (plan : WalkPlan) (stop : Stop) (course : Course) : Option (List Stop) × Course :=
  match plan.listing? stop with
  | none => (some [], course)
  | some (call, children) =>
    if course.cancelled then (none, course)
    else
      let course := course.log .list stop.entry call.cancels
      match call.failure with
      | none => (some (stop.children children), course)
      | some fault =>
        if fault.isCancelled then (none, course)
        else (some [], course.fail stop .list fault)

end WalkPlan

mutual

/-- The number of native entries in a tree. -/
def Entry.size : Entry → Nat
  | .leaf _ => 1
  | .group _ _ children => Entry.sizes children + 1
  | .declared _ inner => inner.size

/-- The number of native entries in trees. -/
def Entry.sizes : List Entry → Nat
  | [] => 0
  | entry :: entries => entry.size + Entry.sizes entries

end

/-- The number of native entries at and below stops. -/
def Stop.sizes (stops : List Stop) : Nat :=
  Entry.sizes (stops.map Stop.entry)

theorem Entry.sizes_append (left right : List Entry) :
    Entry.sizes (left ++ right) = Entry.sizes left + Entry.sizes right := by
  induction left with
  | nil => simp [Entry.sizes]
  | cons entry entries ih => simp [Entry.sizes, ih, Nat.add_assoc]

theorem Entry.size_pos (entry : Entry) : 0 < entry.size := by
  induction entry using Entry.size.induct (motive_2 := fun _ => True) with
  | case1 => simp [Entry.size]
  | case2 => simp [Entry.size]
  | case3 _ inner ih => simpa [Entry.size] using ih
  | case4 => trivial
  | case5 => trivial

theorem Entry.sizes_lt_size {entry : Entry} {call : ListCall} {children : List Entry}
    (group : entry.group? = some (call, children)) : Entry.sizes children < entry.size := by
  induction entry using Entry.size.induct (motive_2 := fun _ => True) with
  | case1 => simp [Entry.group?] at group
  | case2 =>
      simp only [Entry.group?, Option.some.injEq, Prod.mk.injEq] at group
      simp [Entry.size, group.2]
  | case3 _ inner ih => simpa [Entry.size] using ih (by simpa [Entry.group?] using group)
  | case4 => trivial
  | case5 => trivial

theorem Stop.map_entry_children (stop : Stop) (entries : List Entry) :
    (stop.children entries).map Stop.entry = entries := by
  simp [Stop.children, Function.comp_def]

theorem WalkPlan.sizes_descend_lt (plan : WalkPlan) (stop : Stop) (course after : Course)
    {stops : List Stop} (descended : plan.descend stop course = (some stops, after)) :
    Stop.sizes stops < stop.entry.size := by
  unfold WalkPlan.descend at descended
  split at descended
  · obtain ⟨rfl, -⟩ := by simpa using descended
    simpa [Stop.sizes, Entry.sizes] using stop.entry.size_pos
  · next call children listed =>
      have isGroup : stop.entry.group? = some (call, children) := by
        unfold WalkPlan.listing? at listed
        split at listed
        · exact listed
        · cases listed
      split at descended
      · simp at descended
      · split at descended
        · obtain ⟨rfl, -⟩ := by simpa using descended
          rw [Stop.sizes, Stop.map_entry_children]
          exact Entry.sizes_lt_size isGroup
        · split at descended
          · simp at descended
          · obtain ⟨rfl, -⟩ := by simpa using descended
            simpa [Stop.sizes, Entry.sizes] using stop.entry.size_pos

namespace WalkPlan

/-- Visits the stops on a stack and everything below them. The result says whether the walk came
to its end. -/
def run (plan : WalkPlan) (stack : List Stop) (course : Course) : Bool × Course :=
  match stack with
  | [] => (true, course)
  | stop :: stack =>
    if course.cancelled then (false, course)
    else
      match plan.visit stop course with
      | (false, course) => (false, course)
      | (true, course) =>
        match _descended : plan.descend stop course with
        | (none, course) => (false, course)
        | (some stops, course) => run plan (stops ++ stack) course
termination_by Stop.sizes stack
decreasing_by
  have := plan.sizes_descend_lt stop _ _ _descended
  simp only [Stop.sizes, List.map_append, List.map_cons, Entry.sizes_append, Entry.sizes] at *
  omega

end WalkPlan

/-- Why a walk gave no report. -/
inductive WalkFailure
  | config (refusal : WalkConfig.Refusal)
  | fault (fault : Fault)
  deriving DecidableEq, Repr

/-- What a walk brought, and the calls it made in their order. -/
structure WalkResult where
  outcome : Except WalkFailure WalkReport
  calls : List (WalkCall × String)

/-- Walks a tree from its root, in a scope that may be cancelled from the beginning. -/
def walk (plan : WalkPlan) (root : Entry) (cancelled : Bool) : WalkResult :=
  match plan.config.validate with
  | .error refusal => ⟨.error (.config refusal), []⟩
  | .ok () =>
    match plan.run [⟨root, "/", 0⟩] { cancelled } with
    | (true, course) => ⟨.ok course.report, course.calls.reverse⟩
    | (false, course) => ⟨.error (.fault .cancelled), course.calls.reverse⟩

end EntryTree
