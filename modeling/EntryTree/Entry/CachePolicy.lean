/-!
# Cache policies

How long the results of three operations on an entry may be kept, in milliseconds. A lifetime of
zero means that nothing is kept.
-/

namespace EntryTree

/-- An operation whose results may be kept. -/
inductive CachedOperation
  | list
  | openContent
  | metadata
  deriving DecidableEq, Repr

/-- The lifetimes of results in milliseconds. -/
structure CachePolicy where
  list : Nat := 15000
  openContent : Nat := 15000
  metadata : Nat := 15000
  deriving DecidableEq, Repr

namespace CachePolicy

/-- The policy of entries that do not bring their own. -/
def standard : CachePolicy := {}

/-- How long the results of an operation are kept. -/
def lifetime (policy : CachePolicy) : CachedOperation → Nat
  | .list => policy.list
  | .openContent => policy.openContent
  | .metadata => policy.metadata

/-- The policy with another lifetime for an operation. -/
def setLifetime (policy : CachePolicy) (operation : CachedOperation) (lifetime : Nat) :
    CachePolicy :=
  match operation with
  | .list => { policy with list := lifetime }
  | .openContent => { policy with openContent := lifetime }
  | .metadata => { policy with metadata := lifetime }

/-- The policy that keeps no results of an operation. -/
def disable (policy : CachePolicy) (operation : CachedOperation) : CachePolicy :=
  policy.setLifetime operation 0

/-- Whether results of an operation are kept at all. -/
def keeps (policy : CachePolicy) (operation : CachedOperation) : Bool :=
  policy.lifetime operation != 0

end CachePolicy
end EntryTree
