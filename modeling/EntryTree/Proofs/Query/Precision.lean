import EntryTree.Proofs.Number.Order
import EntryTree.Proofs.Query.Amount

/-!
# Comparisons with integers

A number is compared in double precision, so that it may have a fraction. Of integers this is the
comparison of the doubles nearest to them. It has the order of the integers except for two that are
merged, which count as equal; and no two are merged of which one lies below `2 ^ 53`.
-/

namespace EntryTree

open Text

variable {digits : List Char}

end EntryTree
