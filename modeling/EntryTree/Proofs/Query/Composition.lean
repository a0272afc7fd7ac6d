import EntryTree.Proofs.Expression.Alternatives
import EntryTree.Query.Basic

/-!
# Composition of queries

Queries are composed by writing a word of disjunction between their tokens. None of the primaries
of queries can tell what comes after its own tokens, not even those that look further ahead for
where their tokens end; so the first query is read as if it stood alone, and what is wrong with the
second one is found at the same token of it.
-/

namespace EntryTree

/-! ## The primaries of queries -/

theorem headed_numericComparison : Primary.Headed numericComparison where
  fails answer := by simp [numericComparison]
  settled token := by
    refine Primary.settled_of_constant fun rest => ?_
    simp only [numericComparison]
    split
    · rfl
    · split <;> rfl

theorem headed_sizeComparison : Primary.Headed sizeComparison where
  fails answer := by simp [sizeComparison]
  settled token := by
    refine Primary.settled_of_constant fun rest => ?_
    simp only [sizeComparison]
    split
    · rfl
    · split
      · rfl
      · split
        · rfl
        · split <;> rfl

namespace TimeTest

variable {index : Nat} {piece text : List Char} {more rest : List String} {error : ParseError}

/-- A closing brace is found at the same place whatever comes after its token. -/
theorem braced_append (answered : braced index piece more = .ok (text, rest)) :
    ∃ words, more = words ++ rest ∧
      ∀ other, braced index piece (words ++ other) = .ok (text, other) := by
  fun_induction braced index piece more generalizing text with
  | case1 index piece more last closed =>
      rcases Prod.mk.inj (Except.ok.inj answered) with ⟨rfl, rfl⟩
      refine ⟨[], rfl, fun other => ?_⟩
      rw [List.nil_append]
      unfold braced
      simp only [closed]
  | case2 => contradiction
  | case3 => contradiction
  | case4 index piece unclosed next more ih =>
      rw [map_eq_ok] at answered
      rcases answered with ⟨⟨_, _⟩, later, same⟩
      rcases Prod.mk.inj same with ⟨rfl, rfl⟩
      rcases ih later with ⟨words, rfl, unchanged⟩
      refine ⟨next :: words, rfl, fun other => ?_⟩
      rw [List.cons_append, braced]
      simp only [unclosed, unchanged, Except.map]

/-- What is wrong between braces is wrong with this test, and no other primary is tried. -/
theorem isMismatch_braced (failed : braced index piece more = .error error) :
    error.isMismatch = false := by
  fun_induction braced index piece more with
  | case1 => contradiction
  | case2 index piece more first trailing shut shown =>
      rcases Except.error.inj failed with rfl
      rfl
  | case3 =>
      rcases Except.error.inj failed with rfl
      rfl
  | case4 index piece unclosed next more ih => exact ih (map_eq_error.mp failed)

/-- The test that the text between two braces asks for. -/
def ofEnclosed (bound : Bound) (reference : Instant) (text : List Char) :
    Except (Halt ParseError) TimeTest :=
  let text := Text.trim text
  if text.isEmpty then .error (.malformed "expected a duration inside the braces")
  else
    match Span.parse (String.ofList text) with
    | .ok span => .ok (future bound span reference)
    | .error halt =>
      .error (halt.map fun refusal => .malformed (refusal.message (String.ofList text)))

theorem readFuture_eq (bound : Bound) (reference : Instant) (piece : List Char)
    (more : List String) :
    readFuture bound reference piece more =
      match braced 0 piece more with
      | .error error => .error (.failure error)
      | .ok (text, rest) => (ofEnclosed bound reference text).map (·, rest) := by
  unfold readFuture ofEnclosed
  rcases braced 0 piece more with error | ⟨text, rest⟩
  · rfl
  · simp only [Halt.lift_ok, bind, Except.bind]
    split
    · rfl
    · cases Span.parse (String.ofList (Text.trim text)) <;> rfl

theorem isMismatch_ofEnclosed {bound : Bound} {reference : Instant} {halt : Halt ParseError}
    (failed : ofEnclosed bound reference text = .error halt) : halt.isMismatch = false := by
  unfold ofEnclosed at failed
  dsimp only at failed
  split at failed
  · rcases Except.error.inj failed with rfl
    rfl
  · split at failed
    · cases failed
    · next halt _ =>
        rcases Except.error.inj failed with rfl
        cases halt <;> rfl

theorem settled_readFuture (bound : Bound) (reference : Instant) (piece : List Char) :
    Primary.Settled (readFuture bound reference piece) where
  isLocal more test rest answered := by
    rw [readFuture_eq] at answered
    split at answered
    · contradiction
    · next text left collected =>
        rw [map_eq_ok] at answered
        rcases answered with ⟨test, enclosed, same⟩
        rcases Prod.mk.inj same with ⟨rfl, rfl⟩
        rcases braced_append collected with ⟨words, rfl, unchanged⟩
        refine ⟨words, rfl, fun other => ?_⟩
        simp only [readFuture_eq, unchanged, enclosed, Except.map]
  mismatch more error failed mismatches other := by
    rw [readFuture_eq] at failed
    split at failed
    · next fault collected =>
        rcases Except.error.inj failed with rfl
        rw [Halt.isMismatch, isMismatch_braced collected] at mismatches
        contradiction
    · rw [isMismatch_ofEnclosed (map_eq_error.mp failed)] at mismatches
      contradiction

theorem settled_readPast (bound : Bound) (reference : Instant) (text : List Char) :
    Primary.Settled (readPast bound reference text) := by
  refine Primary.settled_of_constant fun rest => ?_
  unfold readPast
  split
  · rfl
  · dsimp only
    split
    · rfl
    · cases past? bound _ _ reference <;> rfl

theorem settled_readSigned (bound : Bound) (reference : Instant) (text : List Char) :
    Primary.Settled (readSigned bound reference text) := by
  unfold readSigned
  split
  · exact settled_readFuture bound reference _
  · exact settled_readPast bound reference text

theorem headed_read (reference : Instant) : Primary.Headed (read reference) where
  fails answer := by simp [read]
  settled token := by
    simp only [read]
    split
    · exact settled_readSigned .moreThan reference _
    · exact settled_readSigned .lessThan reference _
    · refine Primary.settled_of_constant fun rest => ?_
      split
      · rfl
      · split <;> rfl
    · exact Primary.settled_of_constant fun rest => rfl

end TimeTest

namespace Clause

theorem isLocal_constant (answer : Bool) : Primary.Local (constant answer) := by
  intro tokens clause rest answered
  simp only [constant, Except.ok.injEq, Prod.mk.injEq] at answered
  rcases answered with ⟨rfl, rfl⟩
  exact ⟨[], rfl, fun other => rfl⟩

theorem headed_glob (text : Snapshot → String) : Primary.Headed (glob text) where
  fails answer := by simp [glob]
  settled token := by
    refine Primary.settled_of_constant fun rest => ?_
    simp only [glob]
    cases Glob.Pattern.ofToken token <;> rfl

theorem headed_action (registry : ActionRegistry) : Primary.Headed (action registry) where
  fails answer := by simp [action]
  settled token := by
    refine Primary.settled_of_constant fun rest => ?_
    simp only [action]
    split <;> rfl

theorem headed_literal : Primary.Headed literal where
  fails answer := by simp [literal]
  settled token := by
    refine Primary.settled_of_constant fun rest => ?_
    unfold literal
    split <;> simp_all [Except.map]

theorem headed_text : Primary.Headed text where
  fails answer := by simp [text]
  settled token := Primary.settled_of_constant fun rest => rfl

theorem headed_value (reference : Instant) : Primary.Headed (value reference) := by
  apply Primary.headed_firstOf
  simp only [List.mem_cons, List.not_mem_nil, or_false, forall_eq_or_imp, forall_eq]
  exact ⟨(TimeTest.headed_read reference).map _, headed_numericComparison, headed_literal,
    headed_text⟩

/-- The test that the value at the end of a key path passes another one. -/
def atKeys (keys : List String) (test : Predicate Id Json) : Clause where
  test := test.lift fun snapshot =>
    snapshot.metadata.bind fun fields => KeyPath.lookup? fields keys
  usesMetadata := true

theorem metadata_cons (reference : Instant) {path : String} {keys : List String}
    (read : KeyPath.read? path = some keys) (after : List String) :
    metadata reference (path :: after) =
      ((value reference after).mapError fun error => error.committed.shifted 1).map
        fun (test, rest) => (atKeys keys test, rest) := by
  simp only [metadata, read]
  cases value reference after <;> rfl

theorem isLocal_metadata (reference : Instant) : Primary.Local (metadata reference) := by
  intro tokens clause rest answered
  cases tokens with
  | nil => contradiction
  | cons path after =>
      cases read : KeyPath.read? path with
      | none => simp [metadata, read] at answered
      | some keys =>
          rw [metadata_cons reference read, map_eq_ok] at answered
          rcases answered with ⟨⟨test, _⟩, answered, same⟩
          rcases Prod.mk.inj same with ⟨rfl, rfl⟩
          rcases (headed_value reference).isLocal (Expression.mapError_eq_ok.mp answered) with
            ⟨words, rfl, unchanged⟩
          refine ⟨path :: words, rfl, fun other => ?_⟩
          rw [List.cons_append, metadata_cons reference read, unchanged]
          rfl

theorem isLocal_table (registry : ActionRegistry) (reference : Instant) :
    (table registry reference).primary.Local := by
  apply PrimaryTable.isLocal_primary
  intro name chosen found
  have listed := Keyed.mem_of_find?_ofList found
  simp only [List.mem_cons, List.not_mem_nil, or_false, Prod.mk.injEq] at listed
  rcases listed with ⟨_, rfl⟩ | ⟨_, rfl⟩ | ⟨_, rfl⟩ | ⟨_, rfl⟩ | ⟨_, rfl⟩ | ⟨_, rfl⟩ | ⟨_, rfl⟩ |
    ⟨_, rfl⟩ | ⟨_, rfl⟩ | ⟨_, rfl⟩ | ⟨_, rfl⟩
  · exact isLocal_constant true
  · exact isLocal_constant false
  · exact (headed_glob _).isLocal
  · exact (headed_glob _).isLocal
  · exact (headed_action registry).isLocal
  · exact (headed_sizeComparison.map _).isLocal
  · exact (((TimeTest.headed_read reference).map _).map _).isLocal
  · exact (((TimeTest.headed_read reference).map _).map _).isLocal
  · exact (((TimeTest.headed_read reference).map _).map _).isLocal
  · exact (((TimeTest.headed_read reference).map _).map _).isLocal
  · exact isLocal_metadata reference

end Clause

/-! ## Whole queries -/

namespace Query

/-- The query that an expression is compiled to. -/
def ofExpression (reference : Instant) (expression : Expression Clause) : Query where
  predicate := expression.predicate Clause.test
  reference := reference
  needsMetadata := expression.meanings.any Clause.usesMetadata

theorem compile_eq (registry : ActionRegistry) (reference : Instant) {tokens : List String}
    (nonempty : tokens ≠ []) :
    compile registry reference tokens =
      (Expression.read (Clause.table registry reference).primary tokens).map
        (ofExpression reference) := by
  have present : tokens.isEmpty = false := by simpa using nonempty
  rw [compile, Expression.read?]
  cases Expression.read (Clause.table registry reference).primary tokens <;>
    simp only [present, Bool.false_eq_true, if_false] <;> rfl

theorem accepts_ofExpression (reference : Instant) (expression : Expression Clause)
    (snapshot : Snapshot) :
    (ofExpression reference expression).accepts snapshot =
      expression.truth Clause.test snapshot :=
  Expression.holds_predicate Clause.test snapshot expression

/-- A primary that takes all the tokens is a query. -/
theorem compile_primary (registry : ActionRegistry) (reference : Instant) {word : String}
    {words : List String} {clause : Clause} (free : word ∉ Mark.words)
    (answered : (Clause.table registry reference).primary (word :: words) = .ok (clause, [])) :
    compile registry reference (word :: words) =
      .ok (ofExpression reference (.primary (word :: words) clause)) := by
  have suffix := (Clause.isLocal_table registry reference).leavesSuffix
  have derived : Expression.Derives (Clause.table registry reference).primary .operand
      (word :: (words ++ [])) (.primary (word :: words) clause) [] :=
    .primary free (by rwa [List.append_nil])
  rw [List.append_nil] at derived
  rw [compile_eq registry reference (List.cons_ne_nil word words),
    (Expression.read_eq_ok_iff suffix).mpr ⟨.conjunction (.operand derived), Nat.zero_le _⟩]
  rfl

/-- Of two queries with a word of disjunction between them, the second may be anything that does
not close a group or join by itself. A snapshot satisfies them together if it satisfies one of them,
and metadata is needed if one of them needs it. If the second one is malformed, both together are,
in the same way and at the same token of the second one; and if it panics, they do. -/
theorem compile_alternative (registry : ActionRegistry) (reference : Instant)
    {first second : List String} {word : String} {left : Query} (nonempty : first ≠ [])
    (compiled : compile registry reference first = .ok left) (joins : word ∈ ["-o", "-or"])
    (present : second ≠ [])
    (begins : ∀ token ∈ second.head?, token ∉ [")", "-o", "-or", "-a", "-and"]) :
    (∀ right, compile registry reference second = .ok right →
      ∃ both, compile registry reference (first ++ word :: second) = .ok both ∧
        (∀ snapshot, both.accepts snapshot = (left.accepts snapshot || right.accepts snapshot)) ∧
        both.needsMetadata = (left.needsMetadata || right.needsMetadata)) ∧
    (∀ error, compile registry reference second = .error (.failure error) →
      compile registry reference (first ++ word :: second) =
        .error (.failure { error with position := error.position + first.length + 1 })) ∧
    ∀ message, compile registry reference second = .error (.panic message) →
      compile registry reference (first ++ word :: second) = .error (.panic message) := by
  have starts := Expression.startsOperand_of_head present begins
  rw [compile_eq registry reference nonempty, map_eq_ok] at compiled
  rcases compiled with ⟨left, read, rfl⟩
  have together := Expression.read_alternative (Clause.isLocal_table registry reference) read joins
    starts
  have some : first ++ word :: second ≠ [] := by simp
  simp only [compile_eq registry reference some, compile_eq registry reference present, together]
  refine ⟨?_, ?_, ?_⟩
  · intro answer compiled
    rcases map_eq_ok.mp compiled with ⟨right, readRight, rfl⟩
    refine ⟨ofExpression reference (left.alternative word right), ?_, ?_, ?_⟩
    · rw [readRight]
      rfl
    · intro snapshot
      simp only [accepts_ofExpression, Expression.truth_alternative]
    · simp only [ofExpression, Expression.meanings_alternative, List.any_append]
  · intro error failed
    rw [map_eq_error.mp failed]
    simp only [Except.map, Expression.mapError_error, Halt.shifted_failure, ParseError.shifted,
      Nat.add_assoc]
  · intro message panicked
    rw [map_eq_error.mp panicked]
    rfl

theorem compile_alternative_meta :
    ∃ left right both,
      compile .core ⟨0, 0⟩ ["-false"] = .ok left ∧
      compile .core ⟨0, 0⟩ ["-meta", ".app", "web"] = .ok right ∧
      compile .core ⟨0, 0⟩ ["-false", "-o", "-meta", ".app", "web"] = .ok both ∧
      (∀ snapshot, both.accepts snapshot = right.accepts snapshot) ∧ both.needsMetadata = true ∧
      compile .core ⟨0, 0⟩ ["!"] =
        .error (.failure ⟨.malformed, "expected an expression after !", 0⟩) ∧
      compile .core ⟨0, 0⟩ ["-false", "-o", "!"] =
        .error (.failure ⟨.malformed, "expected an expression after !", 2⟩) := by
  have left : compile .core ⟨0, 0⟩ ["-false"] = _ := compile_primary .core ⟨0, 0⟩ (by decide) rfl
  have right : compile .core ⟨0, 0⟩ ["-meta", ".app", "web"] = _ :=
    compile_primary .core ⟨0, 0⟩ (by decide) rfl
  have joins : "-o" ∈ ["-o", "-or"] := by decide
  have failed : compile .core ⟨0, 0⟩ ["!"] =
      .error (.failure ⟨.malformed, "expected an expression after !", 0⟩) := by
    rw [compile_eq _ _ (List.cons_ne_nil _ _), Expression.read_eq, Expression.takeDisjunction_eq,
      Expression.takeConjunction_eq,
      Expression.takeOperand_negation (Mark.ofToken?_eq_negation.mpr (by decide))]
    rfl
  rcases (compile_alternative .core ⟨0, 0⟩ (List.cons_ne_nil _ _) left joins
    (List.cons_ne_nil _ _) (by decide)).1 _ right with ⟨both, together, meaning, needs⟩
  refine ⟨_, _, both, left, right, together, ?_, needs, failed, ?_⟩
  · intro snapshot
    rw [meaning]
    rfl
  · exact (compile_alternative .core ⟨0, 0⟩ (List.cons_ne_nil _ _) left joins
      (List.cons_ne_nil _ _) (by decide)).2.1 _ failed

end Query
end EntryTree
