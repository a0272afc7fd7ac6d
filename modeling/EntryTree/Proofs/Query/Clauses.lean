import EntryTree.Proofs.Expression.Locality
import EntryTree.Query.Clause

/-!
# The clauses of primaries

What a primary of queries answers with, for each of the primaries: a test, and whether the test
looks at metadata. The tests are given by what they see of a snapshot, so that what holds of a
snapshot that was changed elsewhere can be read off.
-/

namespace EntryTree.Clause

variable {registry : ActionRegistry} {reference : Instant} {tokens rest : List String}
  {clause : Clause}

theorem eq_of_constant {answer : Bool} (answered : constant answer tokens = .ok (clause, rest)) :
    clause = .plain (.always answer) :=
  (Prod.mk.inj (Except.ok.inj answered)).1.symm

theorem eq_of_glob {text : Snapshot → String} (answered : glob text tokens = .ok (clause, rest)) :
    ∃ pattern : Glob.Pattern,
      clause = .plain (.atomic fun snapshot => pattern.matches (text snapshot)) := by
  cases tokens with
  | nil => contradiction
  | cons token after =>
      rw [glob] at answered
      cases read : Glob.Pattern.ofToken token with
      | error error =>
          rw [read] at answered
          contradiction
      | ok pattern =>
          rw [read] at answered
          exact ⟨pattern, (Prod.mk.inj (Except.ok.inj answered)).1.symm⟩

theorem eq_of_action (answered : action registry tokens = .ok (clause, rest)) :
    ∃ wanted : String,
      clause = .plain (.atomic fun snapshot => snapshot.actions.contains wanted) := by
  cases tokens with
  | nil => contradiction
  | cons name after =>
      rw [action] at answered
      split at answered
      · contradiction
      · next wanted _ => exact ⟨wanted.name, (Prod.mk.inj (Except.ok.inj answered)).1.symm⟩

theorem eq_of_size (answered : size tokens = .ok (clause, rest)) :
    ∃ comparison : Predicate Id Nat,
      clause = .plain (comparison.lift fun snapshot => snapshot.attributes.size) := by
  rcases map_eq_ok.mp answered with ⟨⟨comparison, _⟩, _, same⟩
  exact ⟨comparison, (Prod.mk.inj same).1.symm⟩

theorem eq_of_time {timestamp : Attributes → Option Instant}
    (answered : time reference timestamp tokens = .ok (clause, rest)) :
    ∃ test : Predicate Id Instant,
      clause = .plain (test.lift fun snapshot => timestamp snapshot.attributes) := by
  rcases map_eq_ok.mp answered with ⟨⟨test, _⟩, _, same⟩
  exact ⟨test, (Prod.mk.inj same).1.symm⟩

/-- The test of what a snapshot projects to depends on the projection only. -/
theorem holds_lift {α : Type} (test : Predicate Id α) {project : Snapshot → Option α}
    {first second : Snapshot} (same : project first = project second) :
    (test.lift project).holds first = (test.lift project).holds second := by
  simp only [Predicate.lift, Predicate.holds, Predicate.run, same]

end EntryTree.Clause
