import EntryTree.Action.Registry

/-!
# Snapshots

What a query can see of an entry. A snapshot is taken once for each entry, so that answering a
query never asks a backend for anything.
-/

namespace EntryTree

/-- What a query can see of an entry. -/
structure Snapshot where
  path : String := ""
  name : String := ""
  /-- How many levels the entry is below the root. -/
  depth : Nat := 0
  attributes : Attributes := {}
  /-- The metadata, if it was fetched. -/
  metadata : Option Json.Fields := none
  /-- The names of the actions that the entry serves. -/
  actions : List String := []

/-- The snapshot of an entry at a path, without its metadata. -/
def Snapshot.take (registry : ActionRegistry) (entry : Entry) (path : String) (depth : Nat) :
    Snapshot where
  path := path
  name := entry.name
  depth := depth
  attributes := entry.attributes
  actions := registry.supported entry

end EntryTree
