import EntryTree.Query.Snapshot

/-!
# Reports of walks

What a walk found: the snapshots that matched in the order of the visit, how many entries were
visited, and the calls that failed. A failed call is passed over; only cancellation ends a walk.
-/

namespace EntryTree

/-- A call that a walk makes on an entry. -/
inductive WalkCall
  | list
  | metadata
  deriving DecidableEq, Repr

/-- The name of a call. -/
def WalkCall.name : WalkCall → String
  | .list => "list"
  | .metadata => "metadata"

/-- A call that failed. -/
structure WalkError where
  path : String
  call : WalkCall
  fault : Fault
  deriving DecidableEq, Repr

/-- The wording of a failed call. -/
def WalkError.display (error : WalkError) : String :=
  s!"{error.call.name} {error.path}: {error.fault.message}"

/-- What a walk found. -/
structure WalkReport where
  visited : Nat := 0
  found : List Snapshot := []
  errors : List WalkError := []

namespace WalkReport

/-- The report without anything. -/
def empty : WalkReport := {}

/-- One report after another. -/
def append (first second : WalkReport) : WalkReport :=
  ⟨first.visited + second.visited, first.found ++ second.found, first.errors ++ second.errors⟩

instance : Append WalkReport := ⟨append⟩

end WalkReport
end EntryTree
