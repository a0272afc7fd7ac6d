import EntryTree.Predicate

/-!
# The height of predicates

Evaluating, copying or dropping a predicate goes as deep as its connectives lie on top of one
another. A chain of one connective counts once, however long it is: an operand that is a chain of
the same connective brings its own operands to the chain it becomes a part of. So what has to be
bounded of an operand of a chain is the height of what it contributes, and not its own.
-/

namespace EntryTree.Predicate

variable {m : Type → Type} {α : Type}

mutual

/-- How many connectives lie on top of one another at most. A test has none. -/
def height : Predicate m α → Nat
  | .atomic _ => 0
  | .all operands => heightOf operands + 1
  | .any operands => heightOf operands + 1
  | .not operand => operand.height + 1

/-- The height of the tallest of some operands. -/
def heightOf : List (Predicate m α) → Nat
  | [] => 0
  | operand :: operands => max operand.height (heightOf operands)

end

theorem heightOf_append (first second : List (Predicate m α)) :
    heightOf (first ++ second) = max (heightOf first) (heightOf second) := by
  induction first with
  | nil => rw [List.nil_append, heightOf, Nat.zero_max]
  | cons operand operands ih => rw [List.cons_append, heightOf, heightOf, ih, Nat.max_assoc]

theorem heightOf_singleton (predicate : Predicate m α) :
    heightOf [predicate] = predicate.height := by
  rw [heightOf, heightOf, Nat.max_zero]

/-! ## What an operand contributes to a chain -/

theorem heightOf_conjuncts_le (predicate : Predicate m α) :
    heightOf predicate.conjuncts ≤ predicate.height := by
  cases predicate with
  | all operands =>
      rw [conjuncts, height]
      exact Nat.le_succ _
  | atomic | any | not => exact Nat.le_of_eq (heightOf_singleton _)

theorem height_le_conjuncts (predicate : Predicate m α) :
    predicate.height ≤ heightOf predicate.conjuncts + 1 := by
  cases predicate with
  | all operands => exact Nat.le_of_eq (by rw [conjuncts, height])
  | atomic | any | not => exact Nat.le_succ_of_le (Nat.le_of_eq (heightOf_singleton _).symm)

theorem heightOf_disjuncts_le (predicate : Predicate m α) :
    heightOf predicate.disjuncts ≤ predicate.height := by
  cases predicate with
  | any operands =>
      rw [disjuncts, height]
      exact Nat.le_succ _
  | atomic | all | not => exact Nat.le_of_eq (heightOf_singleton _)

theorem height_le_disjuncts (predicate : Predicate m α) :
    predicate.height ≤ heightOf predicate.disjuncts + 1 := by
  cases predicate with
  | any operands => exact Nat.le_of_eq (by rw [disjuncts, height])
  | atomic | all | not => exact Nat.le_succ_of_le (Nat.le_of_eq (heightOf_singleton _).symm)

theorem heightOf_conjuncts_and (left right : Predicate m α) :
    heightOf (left.and right).conjuncts =
      max (heightOf left.conjuncts) (heightOf right.conjuncts) := by
  rw [and, conjuncts, heightOf_append]

theorem heightOf_disjuncts_or (left right : Predicate m α) :
    heightOf (left.or right).disjuncts =
      max (heightOf left.disjuncts) (heightOf right.disjuncts) := by
  rw [or, disjuncts, heightOf_append]

end EntryTree.Predicate
