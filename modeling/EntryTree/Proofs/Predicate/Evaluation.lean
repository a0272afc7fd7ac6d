import EntryTree.Predicate

/-!
# The evaluation of predicates

What it means to run a predicate that was built by `and` and `or`, which splice the operands of
chains into longer chains. The tests of one operand run completely before those of the next one, so
all that has to be shown of splicing is that the operands of a chain, run as a part of a longer
chain, end it where the chain itself would have ended. Which subjects satisfy a plain predicate is a
consequence: its tests do nothing but answer.
-/

namespace EntryTree

variable {m : Type → Type} {α : Type}

section Connectives

variable [Monad m]

theorem andM_eq (first second : m Bool) :
    (first <&&> second) = first >>= fun answer => if answer then second else pure false := by
  unfold andM
  congr 1
  funext answer
  cases answer <;> rfl

theorem orM_eq (first second : m Bool) :
    (first <||> second) = first >>= fun answer => if answer then pure true else second := by
  unfold orM
  congr 1
  funext answer
  cases answer <;> rfl

variable [LawfulMonad m]

theorem andM_pure_true (first : m Bool) : (first <&&> pure true) = first := by
  have answers : (fun answer : Bool => if answer then pure true else pure false) =
      (pure : Bool → m Bool) := by
    funext answer
    cases answer <;> rfl
  rw [andM_eq, answers, bind_pure]

theorem orM_pure_false (first : m Bool) : (first <||> pure false) = first := by
  have answers : (fun answer : Bool => if answer then pure true else pure false) =
      (pure : Bool → m Bool) := by
    funext answer
    cases answer <;> rfl
  rw [orM_eq, answers, bind_pure]

end Connectives

namespace Predicate

variable {subject : α}

section Running

variable [Monad m]

theorem runAll_cons (operand : Predicate m α) (operands : List (Predicate m α)) :
    runAll subject (operand :: operands) = (operand.run subject <&&> runAll subject operands) := by
  rw [andM_eq, runAll]

theorem runAny_cons (operand : Predicate m α) (operands : List (Predicate m α)) :
    runAny subject (operand :: operands) = (operand.run subject <||> runAny subject operands) := by
  rw [orM_eq, runAny]

variable [LawfulMonad m]

theorem runAll_append (first second : List (Predicate m α)) :
    runAll subject (first ++ second) = (runAll subject first <&&> runAll subject second) := by
  induction first with
  | nil => simp [runAll, andM_eq]
  | cons operand operands ih =>
      rw [List.cons_append, runAll_cons, runAll_cons, ih]
      simp only [andM_eq, bind_assoc]
      congr 1
      funext answer
      cases answer <;> simp

theorem runAny_append (first second : List (Predicate m α)) :
    runAny subject (first ++ second) = (runAny subject first <||> runAny subject second) := by
  induction first with
  | nil => simp [runAny, orM_eq]
  | cons operand operands ih =>
      rw [List.cons_append, runAny_cons, runAny_cons, ih]
      simp only [orM_eq, bind_assoc]
      congr 1
      funext answer
      cases answer <;> simp

/-- To run the operands that a predicate contributes to a conjunction is to run the predicate. -/
theorem runAll_conjuncts (predicate : Predicate m α) :
    runAll subject predicate.conjuncts = predicate.run subject := by
  have single (predicate : Predicate m α) :
      runAll subject [predicate] = predicate.run subject := by
    rw [runAll_cons, runAll, andM_pure_true]
  cases predicate with
  | all operands => rw [conjuncts, run]
  | atomic | any | not => exact single _

/-- To run the operands that a predicate contributes to a disjunction is to run the predicate. -/
theorem runAny_disjuncts (predicate : Predicate m α) :
    runAny subject predicate.disjuncts = predicate.run subject := by
  have single (predicate : Predicate m α) :
      runAny subject [predicate] = predicate.run subject := by
    rw [runAny_cons, runAny, orM_pure_false]
  cases predicate with
  | any operands => rw [disjuncts, run]
  | atomic | all | not => exact single _

/-- A conjunction runs its right operand where the left one holds, whatever is spliced into it. -/
theorem run_and (left right : Predicate m α) :
    (left.and right).run subject = (left.run subject <&&> right.run subject) := by
  rw [and, run, runAll_append, runAll_conjuncts, runAll_conjuncts]

/-- A disjunction runs its right operand where the left one fails, whatever is spliced into it. -/
theorem run_or (left right : Predicate m α) :
    (left.or right).run subject = (left.run subject <||> right.run subject) := by
  rw [or, run, runAny_append, runAny_disjuncts, runAny_disjuncts]

end Running

@[simp]
theorem holds_atomic (test : α → Bool) : holds (.atomic test) subject = test subject :=
  rfl

@[simp]
theorem holds_always (answer : Bool) : holds (.always answer) subject = answer :=
  rfl

@[simp]
theorem holds_not (operand : Predicate Id α) :
    holds (.not operand) subject = !operand.holds subject := by
  rw [holds, run]
  rfl

@[simp]
theorem holds_and (left right : Predicate Id α) :
    (left.and right).holds subject = (left.holds subject && right.holds subject) := by
  rw [holds, run_and, andM_eq]
  change (if left.holds subject then right.holds subject else false) = _
  cases left.holds subject <;> rfl

@[simp]
theorem holds_or (left right : Predicate Id α) :
    (left.or right).holds subject = (left.holds subject || right.holds subject) := by
  rw [holds, run_or, orM_eq]
  change (if left.holds subject then true else right.holds subject) = _
  cases left.holds subject <;> rfl

/-- A lifted predicate holds of what projects to something it holds of. -/
theorem holds_lift_iff {β : Type} (predicate : Predicate Id α) {project : β → Option α}
    {subject : β} :
    (predicate.lift project).holds subject = true ↔
      ∃ projected, project subject = some projected ∧ predicate.holds projected = true := by
  rw [holds, lift, run]
  cases project subject with
  | none => simp
  | some projected => simp [holds]

end Predicate
end EntryTree
