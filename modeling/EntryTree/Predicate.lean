/-!
# Predicates

A predicate is a boolean combination of atomic tests of a subject. Tests run in a monad, so that
one definition of evaluation serves plain predicates (`Id`) and observed ones, where a test leaves
a trace. Evaluation goes from left to right and stops as soon as the outcome is known.

Chains of one operator are kept flat: a conjunction never has a conjunction among its operands
when it is built by `and`, and likewise for `or`.
-/

namespace EntryTree

variable {m : Type → Type} {α β : Type}

/-- A boolean combination of atomic tests of an `α`. -/
inductive Predicate (m : Type → Type) (α : Type)
  | atomic (test : α → m Bool)
  | all (operands : List (Predicate m α))
  | any (operands : List (Predicate m α))
  | not (operand : Predicate m α)

namespace Predicate

/-- The predicate with one answer for every subject. -/
def always [Monad m] (answer : Bool) : Predicate m α :=
  .atomic fun _ => pure answer

/-- What a predicate contributes to a conjunction that it becomes a part of. -/
def conjuncts : Predicate m α → List (Predicate m α)
  | .all operands => operands
  | predicate => [predicate]

/-- What a predicate contributes to a disjunction that it becomes a part of. -/
def disjuncts : Predicate m α → List (Predicate m α)
  | .any operands => operands
  | predicate => [predicate]

/-- Conjunction, with the operands of conjunctions spliced in. -/
def and (left right : Predicate m α) : Predicate m α :=
  .all (left.conjuncts ++ right.conjuncts)

/-- Disjunction, with the operands of disjunctions spliced in. -/
def or (left right : Predicate m α) : Predicate m α :=
  .any (left.disjuncts ++ right.disjuncts)

section Evaluation

variable [Monad m]

mutual

/-- Runs the tests of a predicate on a subject as far as they are needed. -/
def run (subject : α) : Predicate m α → m Bool
  | .atomic test => test subject
  | .all operands => runAll subject operands
  | .any operands => runAny subject operands
  | .not operand => do
      let answer ← run subject operand
      pure !answer

/-- Runs predicates until one fails. -/
def runAll (subject : α) : List (Predicate m α) → m Bool
  | [] => pure true
  | operand :: operands => do
      let answer ← run subject operand
      if answer then runAll subject operands else pure false

/-- Runs predicates until one holds. -/
def runAny (subject : α) : List (Predicate m α) → m Bool
  | [] => pure false
  | operand :: operands => do
      let answer ← run subject operand
      if answer then pure true else runAny subject operands

end

/-- The predicate on a wider domain that holds where the subject projects and its projection
satisfies `predicate`. It is atomic: nothing inside is spliced into what surrounds it. -/
def lift (predicate : Predicate m α) (project : β → Option α) : Predicate m β :=
  .atomic fun subject =>
    match project subject with
    | some projected => run projected predicate
    | none => pure false

end Evaluation

/-- Whether a subject satisfies a plain predicate. -/
def holds (predicate : Predicate Id α) (subject : α) : Bool :=
  Id.run (predicate.run subject)

mutual

/-- The combination without its tests, as text. -/
def shape : Predicate m α → String
  | .atomic _ => "Atomic"
  | .all operands => "All([" ++ shapes operands ++ "])"
  | .any operands => "Any([" ++ shapes operands ++ "])"
  | .not operand => "Not(" ++ shape operand ++ ")"

/-- The shapes of operands, separated by commas. -/
def shapes : List (Predicate m α) → String
  | [] => ""
  | [operand] => shape operand
  | operand :: operands => shape operand ++ ", " ++ shapes operands

end

end Predicate
end EntryTree
