import EntryTree.Proofs.Predicate.Evaluation

/-!
# Short-circuit evaluation

A predicate is written with binary connectives and kept in flat chains, so the tree that is
evaluated is not the tree that was written. A formula is a predicate as it was written, with a label
on every atomic test. Its evaluation goes from left to right and leaves out what can no longer
change the answer; running the flat predicate gives the same answer and runs the same tests in the
same order, whatever the tests do besides answering.
-/

namespace EntryTree

variable {m : Type → Type} {α ι : Type}

/-- A predicate as it was written. Every atomic test has a label; a copy keeps the labels of what it
is a copy of. -/
inductive Formula (ι : Type) : Type → Type 1
  | atomic {α : Type} (label : ι) (test : α → Bool) : Formula ι α
  | always {α : Type} (answer : Bool) : Formula ι α
  | and {α : Type} (left right : Formula ι α) : Formula ι α
  | or {α : Type} (left right : Formula ι α) : Formula ι α
  | not {α : Type} (operand : Formula ι α) : Formula ι α
  | copy {α : Type} (original : Formula ι α) : Formula ι α
  | lift {α β : Type} (inner : Formula ι α) (project : β → Option α) : Formula ι β

/-- An answer, and the labels of the tests that were run to find it, in order. -/
structure Evaluation (ι : Type) where
  answer : Bool
  trace : List ι

/-- The answer of a second evaluation that is made after a first one. -/
def Evaluation.after (first second : Evaluation ι) : Evaluation ι :=
  ⟨second.answer, first.trace ++ second.trace⟩

namespace Formula

/-- Evaluates a formula from left to right, and no operand whose answer would not count. -/
def evaluate : {α : Type} → Formula ι α → α → Evaluation ι
  | _, .atomic label test, subject => ⟨test subject, [label]⟩
  | _, .always answer, _ => ⟨answer, []⟩
  | _, .and left right, subject =>
      let first := left.evaluate subject
      if first.answer then first.after (right.evaluate subject) else first
  | _, .or left right, subject =>
      let first := left.evaluate subject
      if first.answer then first else first.after (right.evaluate subject)
  | _, .not operand, subject =>
      let given := operand.evaluate subject
      ⟨!given.answer, given.trace⟩
  | _, .copy original, subject => original.evaluate subject
  | _, .lift inner project, subject =>
      match project subject with
      | some projected => inner.evaluate projected
      | none => ⟨false, []⟩

variable [Monad m]

/-- The flat predicate of a formula. Each of its atomic tests is observed before it answers. -/
def predicate (observe : ι → m Unit) : {α : Type} → Formula ι α → Predicate m α
  | _, .atomic label test => .atomic fun subject => do
      observe label
      pure (test subject)
  | _, .always answer => .always answer
  | _, .and left right => (left.predicate observe).and (right.predicate observe)
  | _, .or left right => (left.predicate observe).or (right.predicate observe)
  | _, .not operand => .not (operand.predicate observe)
  | _, .copy original => original.predicate observe
  | _, .lift inner project => (inner.predicate observe).lift project

/-- To run a flat predicate is to observe the tests of the evaluation and to answer as it does. -/
theorem run_predicate [LawfulMonad m] (observe : ι → m Unit) (formula : Formula ι α)
    (subject : α) :
    (formula.predicate observe).run subject =
      (formula.evaluate subject).trace.forM observe >>= fun _ =>
        pure (formula.evaluate subject).answer := by
  induction formula with
  | atomic label test => simp [predicate, evaluate, Predicate.run]
  | always answer => simp [predicate, evaluate, Predicate.run, Predicate.always]
  | and left right ihLeft ihRight =>
      rw [predicate, Predicate.run_and, andM_eq, ihLeft, ihRight, evaluate]
      cases answer : (left.evaluate subject).answer <;> simp [answer, Evaluation.after]
  | or left right ihLeft ihRight =>
      rw [predicate, Predicate.run_or, orM_eq, ihLeft, ihRight, evaluate]
      cases answer : (left.evaluate subject).answer <;> simp [answer, Evaluation.after]
  | not operand ih => simp [predicate, evaluate, Predicate.run, ih]
  | copy original ih => exact ih subject
  | lift inner project ih =>
      rw [predicate, Predicate.lift, Predicate.run, evaluate]
      cases project subject with
      | some projected => exact ih projected
      | none => simp

/-- The flat predicate of a formula, whose tests do nothing but answer. -/
def plain (formula : Formula ι α) : Predicate Id α :=
  formula.predicate fun _ => pure ()

/-- Leaves a label behind those that were left before. -/
def record (label : ι) : StateM (List ι) Unit :=
  modify (· ++ [label])

theorem run_forM_record (labels log : List ι) :
    (labels.forM record).run log = ((), log ++ labels) := by
  induction labels generalizing log with
  | nil => rw [List.append_nil]; rfl
  | cons label labels ih =>
      calc
        ((label :: labels).forM record).run log = (labels.forM record).run (log ++ [label]) := rfl
        _ = ((), log ++ [label] ++ labels) := ih _
        _ = ((), log ++ label :: labels) := by rw [List.append_assoc, List.singleton_append]

/-- A flat predicate answers as the formula that it was built from is evaluated from left to right,
and it runs the tests that are run there, in the same order and no others. -/
theorem predicate_short_circuits (formula : Formula ι α) (subject : α) :
    (∀ log, ((formula.predicate record).run subject).run log =
      ((formula.evaluate subject).answer, log ++ (formula.evaluate subject).trace)) ∧
    formula.plain.holds subject = (formula.evaluate subject).answer := by
  constructor
  · intro log
    rw [run_predicate, StateT.run_bind, run_forM_record]
    rfl
  · rw [Predicate.holds, plain, run_predicate]
    rfl

/-- The last test is run although the second one fails, for it is an operand of the disjunction. -/
example :
    Formula.evaluate
        (.or
          (.and (.atomic "even" fun value => value % 2 == 0)
            (.atomic "positive" fun value => decide (0 < value)))
          (.atomic "small" fun value => decide (value < 10)))
        (-2 : Int) =
      ⟨true, ["even", "positive", "small"]⟩ :=
  rfl

end Formula
end EntryTree
