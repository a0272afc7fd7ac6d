import EntryTree.Proofs.Query.Clauses
import EntryTree.Proofs.Query.Composition

/-!
# Queries and metadata

A compiled query says whether it needs metadata, and those who answer it fetch none if it does not.
What it says is exact. It needs metadata if one of its primaries is a test of metadata, which can be
seen from the words that the primaries begin with; and the other primaries answer the same whatever
the metadata is.
-/

namespace EntryTree

/-- The outcome of the test does not depend on the metadata. -/
def Predicate.Blind (test : Predicate Id Snapshot) : Prop :=
  ∀ (snapshot : Snapshot) (first second : Option Json.Fields),
    test.holds { snapshot with metadata := first } = test.holds { snapshot with metadata := second }

namespace Clause

variable {registry : ActionRegistry} {reference : Instant} {tokens rest : List String}
  {clause : Clause}

/-- A clause does not look at metadata and says so. -/
structure Plain (clause : Clause) : Prop where
  needless : clause.usesMetadata = false
  blind : clause.test.Blind

theorem plain_of_constant {answer : Bool} (answered : constant answer tokens = .ok (clause, rest)) :
    clause.Plain := by
  rcases eq_of_constant answered with rfl
  exact ⟨rfl, fun snapshot first second => rfl⟩

theorem plain_of_glob {text : Snapshot → String}
    (blind : ∀ (snapshot : Snapshot) metadata, text { snapshot with metadata } = text snapshot)
    (answered : glob text tokens = .ok (clause, rest)) : clause.Plain := by
  rcases eq_of_glob answered with ⟨pattern, rfl⟩
  refine ⟨rfl, fun snapshot first second => ?_⟩
  simp only [plain, Predicate.holds, Predicate.run, blind]

theorem plain_of_action (answered : action registry tokens = .ok (clause, rest)) :
    clause.Plain := by
  rcases eq_of_action answered with ⟨wanted, rfl⟩
  exact ⟨rfl, fun snapshot first second => rfl⟩

theorem plain_of_size (answered : size tokens = .ok (clause, rest)) : clause.Plain := by
  rcases eq_of_size answered with ⟨comparison, rfl⟩
  exact ⟨rfl, fun snapshot first second => holds_lift comparison rfl⟩

theorem plain_of_time {timestamp : Attributes → Option Instant}
    (answered : time reference timestamp tokens = .ok (clause, rest)) : clause.Plain := by
  rcases eq_of_time answered with ⟨test, rfl⟩
  exact ⟨rfl, fun snapshot first second => holds_lift test rfl⟩

theorem usesMetadata_of_metadata (answered : metadata reference tokens = .ok (clause, rest)) :
    clause.usesMetadata = true := by
  cases tokens with
  | nil => contradiction
  | cons path after =>
      cases read : KeyPath.read? path with
      | none => simp [metadata, read] at answered
      | some keys =>
          rw [metadata_cons reference read, map_eq_ok] at answered
          rcases answered with ⟨⟨test, _⟩, _, same⟩
          rcases Prod.mk.inj same with ⟨rfl, rfl⟩
          rfl

/-- Among the primaries of queries, the test of metadata is the only one that is not plain. -/
theorem plain_or_uses_of_table {name : String} {chosen : Primary Clause}
    (found : (table registry reference).find? name = some chosen)
    (answered : chosen tokens = .ok (clause, rest)) :
    (name ≠ "-meta" ∧ clause.Plain) ∨ (name = "-meta" ∧ clause.usesMetadata = true) := by
  have listed := Keyed.mem_of_find?_ofList found
  simp only [List.mem_cons, List.not_mem_nil, or_false, Prod.mk.injEq] at listed
  rcases listed with ⟨rfl, rfl⟩ | ⟨rfl, rfl⟩ | ⟨rfl, rfl⟩ | ⟨rfl, rfl⟩ | ⟨rfl, rfl⟩ | ⟨rfl, rfl⟩ |
    ⟨rfl, rfl⟩ | ⟨rfl, rfl⟩ | ⟨rfl, rfl⟩ | ⟨rfl, rfl⟩ | ⟨rfl, rfl⟩
  · exact .inl ⟨by decide, plain_of_constant answered⟩
  · exact .inl ⟨by decide, plain_of_constant answered⟩
  · exact .inl ⟨by decide, plain_of_glob (fun snapshot metadata => rfl) answered⟩
  · exact .inl ⟨by decide, plain_of_glob (fun snapshot metadata => rfl) answered⟩
  · exact .inl ⟨by decide, plain_of_action answered⟩
  · exact .inl ⟨by decide, plain_of_size answered⟩
  · exact .inl ⟨by decide, plain_of_time answered⟩
  · exact .inl ⟨by decide, plain_of_time answered⟩
  · exact .inl ⟨by decide, plain_of_time answered⟩
  · exact .inl ⟨by decide, plain_of_time answered⟩
  · exact .inr ⟨rfl, usesMetadata_of_metadata answered⟩

end Clause

namespace Expression

/-- The words that the primaries begin with, in written order. -/
def heads {β : Type} : Expression β → List String
  | .primary words _ => words.head?.toList
  | .negation _ operand => operand.heads
  | .group inner => inner.heads
  | .conjunction left _ right => left.heads ++ right.heads
  | .disjunction left _ right => left.heads ++ right.heads

variable {registry : ActionRegistry} {reference : Instant} {level : Level}
  {tokens rest : List String} {whole : Expression Clause}

/-- The expression looks at metadata where its primaries are tests of metadata, and nowhere else. -/
structure Candid (whole : Expression Clause) : Prop where
  uses : whole.meanings.any Clause.usesMetadata = true ↔ "-meta" ∈ whole.heads
  blind : ∀ clause ∈ whole.meanings, clause.usesMetadata = false → clause.test.Blind

theorem Candid.append {left right : Expression Clause} (first : left.Candid)
    (second : right.Candid) (meanings : whole.meanings = left.meanings ++ right.meanings)
    (heads : whole.heads = left.heads ++ right.heads) : whole.Candid where
  uses := by
    rw [meanings, heads, List.any_append, Bool.or_eq_true, List.mem_append, first.uses, second.uses]
  blind := by
    rw [meanings, List.forall_mem_append]
    exact ⟨first.blind, second.blind⟩

/-- Whatever is derived from the primaries of queries is candid about metadata. -/
theorem Derives.candid
    (derived : Derives (Clause.table registry reference).primary level tokens whole rest) :
    whole.Candid := by
  induction derived with
  | primary free answered =>
      rcases PrimaryTable.primary_cases answered with ⟨name, after, chosen, split, found, answered⟩
      rcases List.cons.inj split with ⟨rfl, rfl⟩
      rcases Clause.plain_or_uses_of_table found answered with ⟨other, plain⟩ | ⟨rfl, uses⟩
      · constructor <;> simp [meanings, heads, plain.needless, plain.blind, other.symm]
      · constructor <;> simp [meanings, heads, uses]
  | negation negates derived ih => exact ⟨ih.uses, ih.blind⟩
  | group derived ih => exact ⟨ih.uses, ih.blind⟩
  | operand derived ih => exact ih
  | conjunction derived ih => exact ih
  | joined first joins second ihFirst ihSecond => exact ihFirst.append ihSecond rfl rfl
  | adjacent first second ihFirst ihSecond => exact ihFirst.append ihSecond rfl rfl
  | alternative first joins second ihFirst ihSecond => exact ihFirst.append ihSecond rfl rfl

theorem Candid.truth (candid : whole.Candid)
    (needless : whole.meanings.any Clause.usesMetadata = false) (snapshot : Snapshot)
    (first second : Option Json.Fields) :
    whole.truth Clause.test { snapshot with metadata := first } =
      whole.truth Clause.test { snapshot with metadata := second } := by
  apply truth_congr
  intro clause member
  have plain : clause.usesMetadata = false := by
    simpa using List.any_eq_false.mp needless clause member
  exact candid.blind clause member plain snapshot first second

end Expression

namespace Query

variable {registry : ActionRegistry} {reference : Instant} {tokens : List String} {query : Query}

/-- A query is compiled from no tokens, or from an expression that is candid about metadata. -/
theorem compiled_cases (compiled : compile registry reference tokens = .ok query) :
    (tokens = [] ∧ query = ⟨.always true, reference, false⟩) ∨
    ∃ whole, whole.IsReadingOf (Clause.table registry reference).primary tokens ∧ whole.Candid ∧
      query = ofExpression reference whole := by
  cases tokens with
  | nil =>
      rcases Except.ok.inj compiled with rfl
      exact .inl ⟨rfl, rfl⟩
  | cons token after =>
      rw [compile_eq registry reference (List.cons_ne_nil token after), map_eq_ok] at compiled
      rcases compiled with ⟨whole, read, rfl⟩
      have reading := (Expression.read_eq_ok_iff
        (Clause.isLocal_table registry reference).leavesSuffix).mp read
      exact .inr ⟨whole, reading, reading.derived.candid, rfl⟩

/-- A query that needs no metadata answers the same whatever the metadata is. -/
theorem accepts_of_needless (compiled : compile registry reference tokens = .ok query)
    (needless : query.needsMetadata = false) (snapshot : Snapshot)
    (first second : Option Json.Fields) :
    query.accepts { snapshot with metadata := first } =
      query.accepts { snapshot with metadata := second } := by
  rcases compiled_cases compiled with ⟨_, rfl⟩ | ⟨whole, _, candid, rfl⟩
  · rfl
  · rw [accepts_ofExpression, accepts_ofExpression]
    exact candid.truth needless snapshot first second

/-- A query needs metadata if and only if a primary of its one derivation begins with the word for
tests of metadata; such a word as the argument of another primary does not count. A query that needs
none answers the same whatever the metadata is. -/
theorem needsMetadata_exact (compiled : compile registry reference tokens = .ok query) :
    (tokens = [] → query.needsMetadata = false) ∧
    (tokens ≠ [] → ∃ whole,
      Expression.Derives (Clause.table registry reference).primary .disjunction tokens whole [] ∧
      (∀ other,
        Expression.Derives (Clause.table registry reference).primary .disjunction tokens other [] →
          other = whole) ∧
      (query.needsMetadata = true ↔ "-meta" ∈ whole.heads)) ∧
    (query.needsMetadata = false →
      ∀ (snapshot : Snapshot) (first second : Option Json.Fields),
        query.accepts { snapshot with metadata := first } =
          query.accepts { snapshot with metadata := second }) := by
  refine ⟨?_, ?_, accepts_of_needless compiled⟩
  · rintro rfl
    rcases Except.ok.inj compiled with rfl
    rfl
  · intro nonempty
    rcases compiled_cases compiled with ⟨empty, _⟩ | ⟨whole, reading, candid, rfl⟩
    · contradiction
    · refine ⟨whole, reading.derived, ?_, candid.uses⟩
      intro other derived
      exact (Expression.Derives.unique .disjunction tokens _ _ _ _ derived reading.derived
        (by simp [Expression.Level.Ends]) (by simp [Expression.Level.Ends])).1

theorem needsMetadata_exact_name :
    (∃ query, compile .core ⟨0, 0⟩ ["-name", "-meta"] = .ok query ∧
      query.needsMetadata = false ∧
      ∀ (snapshot : Snapshot) (first second : Option Json.Fields),
        query.accepts { snapshot with metadata := first } =
          query.accepts { snapshot with metadata := second }) ∧
    ∃ query whole, compile .core ⟨0, 0⟩ ["-meta", ".app", "web"] = .ok query ∧
      Expression.Derives (Clause.table .core ⟨0, 0⟩).primary .disjunction
        ["-meta", ".app", "web"] whole [] ∧
      query.needsMetadata = true ∧ "-meta" ∈ whole.heads := by
  constructor
  · have read : ∃ pattern, Glob.Pattern.read "-meta" = .ok pattern := by
      simp [Glob.Pattern.read, Glob.readParts, Glob.Draft.push, Glob.Draft.start,
        Glob.Draft.finish]
    rcases read with ⟨pattern, read⟩
    have found : (Clause.table .core ⟨0, 0⟩).find? "-name" = some (Clause.glob Snapshot.name) := rfl
    have answered : (Clause.table .core ⟨0, 0⟩).primary ["-name", "-meta"] =
        .ok (.plain (.atomic fun snapshot => pattern.matches snapshot.name), []) := by
      simp only [PrimaryTable.primary, found, Clause.glob, Glob.Pattern.ofToken, read]
      rfl
    have compiled := compile_primary .core ⟨0, 0⟩ (by decide) answered
    exact ⟨_, compiled, rfl, (needsMetadata_exact compiled).2.2 rfl⟩
  · have compiled : compile .core ⟨0, 0⟩ ["-meta", ".app", "web"] = _ :=
      compile_primary .core ⟨0, 0⟩ (by decide) rfl
    rcases (needsMetadata_exact compiled).2.1 (List.cons_ne_nil _ _) with
      ⟨whole, derived, _, needs⟩
    exact ⟨_, whole, compiled, derived, rfl, needs.mp rfl⟩

end Query
end EntryTree
