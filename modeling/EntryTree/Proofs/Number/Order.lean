import EntryTree.Proofs.Number.Rounding

/-!
# Integers as doubles

An integer is compared as the double that is nearest to it. The double never leaves the order of the
integers, but it can be the same for two of them. From `2 ^ 53` on not every integer is a double, so
integers can be merged only if both lie there; `2 ^ 53` and its successor are.
-/

namespace EntryTree.Binary64

variable {smaller larger natural : Nat} {value other : Int}

/-- The quanta of the double nearest to a natural. All infinite ones count the same. -/
def magnitude (natural : Nat) : Nat :=
  min (nearestQuanta (natural * unity) 1) overflow

end EntryTree.Binary64
