import EntryTree.Fault

/-!
# Cancellation scopes

Every operation runs in a scope. Cancelling a scope cancels everything that was ever derived from
it, before or after, and nothing else. A scope therefore consists of the marks of its lineage, its
own first, and is cancelled as soon as one of them is.

Work is observed poll by poll: at each poll it may cancel its scope, and it may finish. Running
it in a scope looks at the scope before every poll.
-/

namespace EntryTree

/-- A scope, by the marks of itself and its ancestors. -/
structure Scope where
  lineage : List Nat
  deriving DecidableEq, Repr

/-- The marks in use and the cancelled ones among them. -/
structure Cancellations where
  nextMark : Nat
  cancelled : List Nat
  deriving DecidableEq, Repr

namespace Cancellations

/-- No marks are in use. -/
def none : Cancellations :=
  ⟨0, []⟩

/-- A scope of its own. -/
def fresh (state : Cancellations) : Scope × Cancellations :=
  (⟨[state.nextMark]⟩, { state with nextMark := state.nextMark + 1 })

/-- A scope that is cancelled with another one and also on its own. -/
def derive (state : Cancellations) (parent : Scope) : Scope × Cancellations :=
  (⟨state.nextMark :: parent.lineage⟩, { state with nextMark := state.nextMark + 1 })

/-- Cancels a scope and everything derived from it. -/
def cancel (state : Cancellations) (scope : Scope) : Cancellations :=
  { state with cancelled := scope.lineage.take 1 ++ state.cancelled }

/-- Whether a scope is cancelled. -/
def isCancelled (state : Cancellations) (scope : Scope) : Bool :=
  scope.lineage.any state.cancelled.contains

/-- Fails in a scope that is cancelled. -/
def check (state : Cancellations) (scope : Scope) : Except Fault Unit :=
  if state.isCancelled scope then .error .cancelled else .ok ()

end Cancellations

/-- What a work does when it is polled. -/
structure Poll (α : Type) where
  /-- Whether it cancels its scope. -/
  cancels : Bool := false
  /-- What it finishes with, if it does. -/
  outcome : Option (Except Fault α) := none

/-- A work, poll by poll; after the listed polls it never finishes. -/
abbrev Work (α : Type) := List (Poll α)

namespace Work

variable {α : Type}

/-- Polls a work in a scope so many times at most. Without an outcome the work is still pending. -/
def run (state : Cancellations) (scope : Scope) :
    Nat → Work α → Option (Except Fault α) × Cancellations
  | 0, _ => (none, state)
  | polls + 1, work =>
    if state.isCancelled scope then (some (.error .cancelled), state)
    else
      match work with
      | [] => run state scope polls []
      | poll :: work =>
        let state := if poll.cancels then state.cancel scope else state
        match poll.outcome with
        | some outcome => (some outcome, state)
        | none => run state scope polls work

end Work
end EntryTree
