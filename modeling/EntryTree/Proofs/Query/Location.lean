import EntryTree.Proofs.Expression.Failure
import EntryTree.Proofs.Query.Composition

/-!
# Errors of queries

Where the tokens of a query are wrong, one of them is to blame, and the error says which one. The
primaries of queries count from the first token that they are given, and so do the readers between
braces and behind key paths, so the places are shifted on the way out.
-/

namespace EntryTree

namespace Primary

variable {β γ : Type} {primary : Primary β}

/-- Errors point at one of the tokens that the primary is given, or, if it is given none, at the
place where the first one is missing. -/
def Points (primary : Primary β) : Prop :=
  ∀ ⦃tokens error⦄, primary tokens = .error (.failure error) → error.position ≤ tokens.length - 1

theorem Points.map (points : primary.Points) (f : β → γ) : (primary.map f).Points := by
  intro tokens error failed
  exact points (map_eq_error.mp failed)

theorem points_firstOf (expected : String) {primaries : List (Primary β)}
    (points : ∀ primary ∈ primaries, primary.Points) : (firstOf expected primaries).Points := by
  intro tokens error failed
  induction primaries with
  | nil =>
      cases failed
      exact Nat.zero_le _
  | cons primary others ih =>
      rw [List.forall_mem_cons] at points
      rw [firstOf] at failed
      split at failed
      · contradiction
      · next fault first =>
          split at failed
          · exact ih points.2 failed
          · rcases Except.error.inj failed with rfl
            exact points.1 first

theorem points_of_first
    (first : ∀ tokens error, primary tokens = .error (.failure error) → error.position = 0) :
    primary.Points := by
  intro tokens error failed
  rw [first tokens error failed]
  exact Nat.zero_le _

end Primary

theorem points_numericComparison : Primary.Points numericComparison := by
  apply Primary.points_of_first
  intro tokens error failed
  unfold numericComparison at failed
  grind [ParseError.mismatch, ParseError.malformed]

theorem points_sizeComparison : Primary.Points sizeComparison := by
  apply Primary.points_of_first
  intro tokens error failed
  unfold sizeComparison at failed
  grind [ParseError.mismatch, ParseError.malformed]

namespace TimeTest

variable {index : Nat} {piece text : List Char} {more : List String} {error : ParseError}

/-- What is wrong between braces is wrong at one of the tokens between them. -/
theorem position_braced (failed : braced index piece more = .error error) :
    error.position ≤ index + more.length := by
  fun_induction braced index piece more with
  | case1 => contradiction
  | case2 index piece more first trailing shut shown =>
      rcases Except.error.inj failed with rfl
      exact Nat.le_add_right _ _
  | case3 =>
      rcases Except.error.inj failed with rfl
      exact Nat.zero_le _
  | case4 index piece unclosed next more ih =>
      have near := ih (map_eq_error.mp failed)
      rw [List.length_cons]
      omega

theorem position_ofEnclosed {bound : Bound} {reference : Instant}
    (failed : ofEnclosed bound reference text = .error (.failure error)) : error.position = 0 := by
  unfold ofEnclosed at failed
  dsimp only at failed
  split at failed
  · cases failed
    rfl
  · split at failed
    · contradiction
    · rcases Halt.map_eq_failure.mp (Except.error.inj failed) with ⟨refusal, _, rfl⟩
      rfl

theorem position_readFuture {bound : Bound} {reference : Instant}
    (failed : readFuture bound reference piece more = .error (.failure error)) :
    error.position ≤ more.length := by
  rw [readFuture_eq] at failed
  split at failed
  · next fault collected =>
      cases failed
      simpa using position_braced collected
  · rw [position_ofEnclosed (map_eq_error.mp failed)]
    exact Nat.zero_le _

theorem position_readPast {bound : Bound} {reference : Instant}
    (failed : readPast bound reference text more = .error (.failure error)) :
    error.position = 0 := by
  unfold readPast past? at failed
  grind [Halt.lift, ParseError.mismatch, ParseError.malformed, map_eq_error]

theorem position_readSigned {bound : Bound} {reference : Instant}
    (failed : readSigned bound reference text more = .error (.failure error)) :
    error.position ≤ more.length := by
  unfold readSigned at failed
  split at failed
  · exact position_readFuture failed
  · rw [position_readPast failed]
    exact Nat.zero_le _

theorem points_read (reference : Instant) : Primary.Points (read reference) := by
  intro tokens error failed
  cases tokens with
  | nil =>
      cases failed
      exact Nat.zero_le _
  | cons token more =>
      rw [List.length_cons, Nat.add_sub_cancel]
      rw [read] at failed
      split at failed
      · exact position_readSigned failed
      · exact position_readSigned failed
      · have first : error.position = 0 := by
          grind [ParseError.mismatch, ParseError.malformed]
        rw [first]
        exact Nat.zero_le _
      · cases failed
        exact Nat.zero_le _

end TimeTest

namespace Clause

variable {registry : ActionRegistry} {reference : Instant}

theorem points_glob (text : Snapshot → String) : Primary.Points (glob text) := by
  apply Primary.points_of_first
  intro tokens error failed
  cases tokens with
  | nil =>
      cases failed
      rfl
  | cons token after =>
      rw [glob, Glob.Pattern.ofToken] at failed
      cases read : Glob.Pattern.read token with
      | error refusal =>
          rw [read] at failed
          cases failed
          rfl
      | ok pattern =>
          rw [read] at failed
          contradiction

theorem points_action (registry : ActionRegistry) : Primary.Points (action registry) := by
  apply Primary.points_of_first
  intro tokens error failed
  unfold action at failed
  grind [ParseError.mismatch, ParseError.malformed]

theorem points_literal : Primary.Points literal := by
  apply Primary.points_of_first
  intro tokens error failed
  unfold literal at failed
  grind [ParseError.mismatch]

theorem points_text : Primary.Points text := by
  apply Primary.points_of_first
  intro tokens error failed
  unfold text at failed
  grind [ParseError.mismatch]

theorem points_value (reference : Instant) : Primary.Points (value reference) := by
  apply Primary.points_firstOf
  simp only [List.mem_cons, List.not_mem_nil, or_false, forall_eq_or_imp, forall_eq]
  exact ⟨(TimeTest.points_read reference).map _, points_numericComparison, points_literal,
    points_text⟩

/-- A test of metadata points at one of its tokens, unless its key path is the last one. -/
theorem position_metadata {tokens : List String} {error : ParseError}
    (failed : metadata reference tokens = .error (.failure error)) :
    error.position ≤ tokens.length - 1 ∨
      error.position = 1 ∧ ∃ path keys, tokens = [path] ∧ KeyPath.read? path = some keys := by
  cases tokens with
  | nil =>
      cases failed
      exact .inl (Nat.zero_le _)
  | cons path after =>
      cases read : KeyPath.read? path with
      | none =>
          simp only [metadata, read] at failed
          cases failed
          exact .inl (Nat.zero_le _)
      | some keys =>
          rw [metadata_cons reference read, map_eq_error, Expression.mapError_eq_error] at failed
          rcases failed with ⟨halt, failed, same⟩
          rcases Halt.map_eq_failure.mp same with ⟨final, committed, rfl⟩
          rcases Halt.map_eq_failure.mp committed with ⟨fault, rfl, rfl⟩
          have near := points_value reference failed
          cases after with
          | nil =>
              right
              refine ⟨?_, path, keys, rfl, read⟩
              simpa [ParseError.shifted, ParseError.committed] using near
          | cons token others =>
              left
              simpa [ParseError.shifted, ParseError.committed] using near

/-- The names of the primaries that take an argument at least. -/
def namesWithArgument : List String :=
  ["-name", "-path", "-action", "-size", "-atime", "-mtime", "-ctime", "-crtime", "-meta"]

/-- A primary that refuses its tokens takes an argument, and points at one of the tokens, or it is a
test of metadata whose key path is the last token. -/
theorem position_of_table {name : String} {chosen : Primary Clause} {tokens : List String}
    {error : ParseError} (found : (table registry reference).find? name = some chosen)
    (failed : chosen tokens = .error (.failure error)) :
    name ∈ namesWithArgument ∧
      (error.position ≤ tokens.length - 1 ∨
        name = "-meta" ∧ error.position = 1 ∧
          ∃ path keys, tokens = [path] ∧ KeyPath.read? path = some keys) := by
  have listed := Keyed.mem_of_find?_ofList found
  simp only [List.mem_cons, List.not_mem_nil, or_false, Prod.mk.injEq] at listed
  rcases listed with ⟨rfl, rfl⟩ | ⟨rfl, rfl⟩ | ⟨rfl, rfl⟩ | ⟨rfl, rfl⟩ | ⟨rfl, rfl⟩ | ⟨rfl, rfl⟩ |
    ⟨rfl, rfl⟩ | ⟨rfl, rfl⟩ | ⟨rfl, rfl⟩ | ⟨rfl, rfl⟩ | ⟨rfl, rfl⟩
  · contradiction
  · contradiction
  · exact ⟨by decide, .inl (points_glob _ failed)⟩
  · exact ⟨by decide, .inl (points_glob _ failed)⟩
  · exact ⟨by decide, .inl (points_action registry failed)⟩
  · exact ⟨by decide, .inl (points_sizeComparison.map _ failed)⟩
  · exact ⟨by decide, .inl (((TimeTest.points_read reference).map _).map _ failed)⟩
  · exact ⟨by decide, .inl (((TimeTest.points_read reference).map _).map _ failed)⟩
  · exact ⟨by decide, .inl (((TimeTest.points_read reference).map _).map _ failed)⟩
  · exact ⟨by decide, .inl (((TimeTest.points_read reference).map _).map _ failed)⟩
  · refine ⟨by decide, ?_⟩
    rcases position_metadata failed with near | behind
    · exact .inl near
    · exact .inr ⟨rfl, behind⟩

/-- The names with an argument are those whose primaries refuse to be given no tokens. -/
theorem mem_namesWithArgument_iff {name : String} {chosen : Primary Clause}
    (found : (table registry reference).find? name = some chosen) :
    name ∈ namesWithArgument ↔ ∃ fault, chosen [] = .error (.failure fault) := by
  constructor
  · intro named
    have listed := Keyed.mem_of_find?_ofList found
    simp only [List.mem_cons, List.not_mem_nil, or_false, Prod.mk.injEq] at listed
    rcases listed with ⟨rfl, rfl⟩ | ⟨rfl, rfl⟩ | ⟨_, rfl⟩ | ⟨_, rfl⟩ | ⟨_, rfl⟩ | ⟨_, rfl⟩ |
      ⟨_, rfl⟩ | ⟨_, rfl⟩ | ⟨_, rfl⟩ | ⟨_, rfl⟩ | ⟨_, rfl⟩
    · exact absurd named (by decide)
    · exact absurd named (by decide)
    all_goals exact ⟨_, rfl⟩
  · rintro ⟨fault, failed⟩
    exact (position_of_table found failed).1

theorem not_mem_words_of_find? {name : String} {chosen : Primary Clause}
    (found : (table registry reference).find? name = some chosen) : name ∉ Mark.words := by
  have listed := Keyed.mem_of_find?_ofList found
  simp only [List.mem_cons, List.not_mem_nil, or_false, Prod.mk.injEq] at listed
  rcases listed with ⟨rfl, _⟩ | ⟨rfl, _⟩ | ⟨rfl, _⟩ | ⟨rfl, _⟩ | ⟨rfl, _⟩ | ⟨rfl, _⟩ | ⟨rfl, _⟩ |
    ⟨rfl, _⟩ | ⟨rfl, _⟩ | ⟨rfl, _⟩ | ⟨rfl, _⟩ <;> decide

end Clause

/-! ## Tables -/

namespace PrimaryTable

variable {β : Type} {table : PrimaryTable β} {name : String} {after tokens : List String}

/-- Where an operand is due, the token at an index names a primary that refuses the tokens behind
it. -/
def Refuses (table : PrimaryTable β) (tokens : List String) (index : Nat) (name : String)
    (fault : ParseError) : Prop :=
  ∃ after chosen, Expression.Awaits table.primary tokens (name :: after) ∧
    tokens.drop index = name :: after ∧ table.find? name = some chosen ∧
    chosen after = .error (.failure fault)

/-- The error for a primary that is named at an index and refuses the tokens behind its name. -/
def refusal (index : Nat) (name : String) (fault : ParseError) : ParseError :=
  ⟨.malformed, name ++ ": " ++ fault.message, index + 1 + fault.position⟩

/-- The error for a token that should name a primary and names none. -/
def unknown (index : Nat) (name : String) : ParseError :=
  ⟨.malformed, s!"unknown primary or operator {Text.quoted name}", index⟩

theorem refusal_eq (index : Nat) (name : String) (fault : ParseError) :
    (((fault.attributed name).committed).shifted 1).committed.shifted index =
      refusal index name fault := by
  simp only [refusal, ParseError.attributed, ParseError.committed, ParseError.shifted,
    ParseError.mk.injEq, true_and]
  omega

/-- A table fails where it has no primary of the name, or as the primary of the name does. -/
theorem primary_error {error : ParseError}
    (failed : table.primary (name :: after) = .error (.failure error)) (index : Nat) :
    table.find? name = none ∧ error.committed.shifted index = unknown index name ∨
    ∃ chosen fault, table.find? name = some chosen ∧ chosen after = .error (.failure fault) ∧
      error.committed.shifted index = refusal index name fault := by
  rw [primary] at failed
  split at failed
  · next missing =>
      cases failed
      refine .inl ⟨missing, ?_⟩
      simp only [unknown, ParseError.mismatch, ParseError.committed, ParseError.shifted,
        Nat.zero_add]
  · next chosen found =>
      rcases Expression.mapError_eq_error.mp failed with ⟨halt, refuses, same⟩
      rcases Halt.map_eq_failure.mp same with ⟨final, committed, rfl⟩
      rcases Halt.map_eq_failure.mp committed with ⟨named, attributed, rfl⟩
      rcases Halt.map_eq_failure.mp attributed with ⟨fault, rfl, rfl⟩
      exact .inr ⟨chosen, fault, found, refuses, refusal_eq index name fault⟩

end PrimaryTable

/-! ## Whole queries -/

namespace Query

open Expression (Awaits Failure read? predicate?)

variable {registry : ActionRegistry} {reference : Instant} {tokens : List String}
  {error : ParseError} {index : Nat} {name : String} {fault : ParseError}

theorem compile_eq_error {halt : Halt ParseError} :
    compile registry reference tokens = .error halt ↔
      read? (Clause.table registry reference).primary tokens = .error halt := by
  rw [compile]
  cases read? (Clause.table registry reference).primary tokens with
  | error fault => simp only [bind, Except.bind, Except.error.injEq]
  | ok expression => simp only [bind, Except.bind, reduceCtorEq]

/-- The tokens end where an argument or an operand is missing: behind an opening parenthesis, a name
with an argument, or a key path. -/
def EndsShort (registry : ActionRegistry) (reference : Instant) (tokens : List String) : Prop :=
  let primary := (Clause.table registry reference).primary
  Awaits primary tokens ["("] ∨
    (∃ name ∈ Clause.namesWithArgument, Awaits primary tokens [name]) ∨
    ∃ path keys, KeyPath.read? path = some keys ∧ Awaits primary tokens ["-meta", path]

/-- Where an error comes from: tokens are out of order, a primary refuses its tokens, or a token
names no primary. -/
inductive Source (registry : ActionRegistry) (reference : Instant) (tokens : List String) :
    ParseError → Prop
  | misplaced {index : Nat} (misplacement : Misplacement) (near : index ≤ tokens.length) :
      Source registry reference tokens (misplacement.error.atToken index)
  | refused {index : Nat} {name : String} {fault : ParseError}
      (refuses : (Clause.table registry reference).Refuses tokens index name fault) :
      Source registry reference tokens (PrimaryTable.refusal index name fault)
  | unknown {index : Nat} {name : String} (present : tokens[index]? = some name)
      (missing : (Clause.table registry reference).find? name = none) :
      Source registry reference tokens (PrimaryTable.unknown index name)

/-- What is known of the error for tokens that are no query: nothing else is tried, it points at a
token, or behind the last one if the tokens end short, and where it comes from. -/
structure Located (registry : ActionRegistry) (reference : Instant) (tokens : List String)
    (error : ParseError) : Prop where
  final : error.kind = .malformed
  near : error.position ≤ tokens.length
  short : error.position = tokens.length → EndsShort registry reference tokens
  source : Source registry reference tokens error

theorem located_of_refuses
    (refuses : (Clause.table registry reference).Refuses tokens index name fault) :
    Located registry reference tokens (PrimaryTable.refusal index name fault) := by
  rcases refuses with ⟨after, chosen, awaits, left, found, failed⟩
  have length := Expression.length_of_drop left
  rw [List.length_cons] at length
  rcases Clause.position_of_table found failed with ⟨named, near⟩
  refine ⟨rfl, ?_, ?_, .refused ⟨after, chosen, awaits, left, found, failed⟩⟩
  · have within : fault.position ≤ after.length := by
      rcases near with near | ⟨_, behind, path, keys, rfl, _⟩
      · omega
      · exact Nat.le_of_eq behind
    simp only [PrimaryTable.refusal]
    omega
  · intro behind
    simp only [PrimaryTable.refusal] at behind
    rcases near with near | ⟨rfl, _, path, keys, rfl, read⟩
    · have empty : after = [] := List.length_eq_zero_iff.mp (by omega)
      rcases empty with rfl
      exact .inr (.inl ⟨name, named, awaits⟩)
    · exact .inr (.inr ⟨path, keys, read, awaits⟩)

theorem located_of_failure
    (failure : Failure (Clause.table registry reference).primary tokens error) :
    Located registry reference tokens error := by
  generalize same : Halt.failure error = halt at failure
  cases failure with
  | misplaced misplacement inside =>
      rcases Halt.failure.inj same with rfl
      exact ⟨rfl, Nat.le_of_lt inside, fun same => absurd same (Nat.ne_of_lt inside),
        .misplaced misplacement (Nat.le_of_lt inside)⟩
  | missing awaits =>
      rcases Halt.failure.inj same with rfl
      exact ⟨rfl, Nat.le_refl _, fun _ => .inl awaits, .misplaced _ (Nat.le_refl _)⟩
  | @refused index name after halt awaits left free failed =>
      rcases Halt.map_eq_failure.mp same.symm with ⟨final, committed, rfl⟩
      rcases Halt.map_eq_failure.mp committed with ⟨fault, rfl, rfl⟩
      rcases PrimaryTable.primary_error failed index with
        ⟨missing, same⟩ | ⟨chosen, fault, found, refuses, same⟩
      · have inside : index < tokens.length := by
          rw [Expression.length_of_drop left, List.length_cons]
          omega
        have present : tokens[index]? = some name := by
          rw [← List.head?_drop, left, List.head?_cons]
        rw [same]
        exact ⟨rfl, Nat.le_of_lt inside, fun same => absurd same (Nat.ne_of_lt inside),
          .unknown present missing⟩
      · rw [same]
        exact located_of_refuses ⟨after, chosen, awaits, left, found, refuses⟩

/-- Where an operand is due and a primary refuses the tokens behind its name, the tokens are no
query, and the error is the one of the primary. -/
theorem compile_of_refuses
    (refuses : (Clause.table registry reference).Refuses tokens index name fault) :
    compile registry reference tokens =
      .error (.failure (PrimaryTable.refusal index name fault)) := by
  rcases refuses with ⟨after, chosen, awaits, left, found, failed⟩
  have refused : (Clause.table registry reference).primary (name :: after) =
      .error (.failure (((fault.attributed name).committed).shifted 1)) := by
    simp only [PrimaryTable.primary, found, failed, Expression.mapError_error]
    rfl
  have free := Clause.not_mem_words_of_find? found
  rw [compile_eq_error, Expression.read?_of_refused awaits left free refused,
    ← PrimaryTable.refusal_eq]
  rfl

/-- All errors for tokens that are no query are final and located: none points behind the place that
follows the last token, and that place is pointed at only if the tokens end short. What a primary
refuses is located behind its name, as far behind as the primary says, and reported by its name.
Whatever the primaries are, as long as they leave the tokens that they do not take and point at no
place behind those that they are given, all errors are final and none points further behind. -/
theorem compile_error_located (registry : ActionRegistry) (reference : Instant)
    (tokens : List String) :
    (∀ error, compile registry reference tokens = .error (.failure error) →
      Located registry reference tokens error) ∧
    (∀ index name fault, (Clause.table registry reference).Refuses tokens index name fault →
      compile registry reference tokens =
        .error (.failure
          ⟨.malformed, name ++ ": " ++ fault.message, index + 1 + fault.position⟩)) ∧
    ∀ (α β : Type) (primary : Primary β) (interpret : β → Predicate Id α),
      primary.LeavesSuffix →
      (∀ given error, primary given = .error (.failure error) → error.position ≤ given.length) →
      ∀ error, (read? primary tokens).map (predicate? interpret) = .error (.failure error) →
        error.kind = .malformed ∧ error.position ≤ tokens.length := by
  refine ⟨?_, ?_, ?_⟩
  · intro error failed
    apply located_of_failure
    exact Expression.failure_of_read? (Clause.isLocal_table registry reference).leavesSuffix
      (compile_eq_error.mp failed)
  · intro index name fault refuses
    exact compile_of_refuses refuses
  · intro α β primary interpret suffix bounded error failed
    exact (Expression.failure_of_read? suffix (map_eq_error.mp failed)).located bounded

theorem compile_error_located_mtime :
    (compile .core ⟨0, 0⟩ ["-false", "-o", "-mtime"] =
        .error (.failure ⟨.malformed, "-mtime: expected a sign or a digit", 3⟩) ∧
      EndsShort .core ⟨0, 0⟩ ["-false", "-o", "-mtime"]) ∧
    ∃ error, (read? Clause.literal ["maybe"]).map (predicate? id) = .error (.failure error) ∧
      error.kind = .malformed ∧ error.position ≤ 1 := by
  constructor
  · have before : Expression.DerivesAt (Clause.table .core ⟨0, 0⟩).primary .disjunction 0
        ["-false", "-o", "-mtime"] _ ["-o", "-mtime"] :=
      ⟨.conjunction (.operand (@Expression.Derives.primary _ _ "-false" [] ["-o", "-mtime"] _
        (by decide) rfl)), by decide⟩
    have awaits : Awaits (Clause.table .core ⟨0, 0⟩).primary ["-false", "-o", "-mtime"]
        ["-mtime"] :=
      ⟨0, .head (.alternative before (by decide) (by decide)) (.single .operand)⟩
    rcases compile_error_located .core ⟨0, 0⟩ ["-false", "-o", "-mtime"] with
      ⟨located, refused, _⟩
    have compiled := refused 2 "-mtime" (.mismatch "expected a sign or a digit")
      ⟨[], _, awaits, rfl, rfl, rfl⟩
    exact ⟨compiled, (located _ compiled).short rfl⟩
  · have free : Mark.ofToken? "maybe" = none := by decide
    have failed : (read? Clause.literal ["maybe"]).map (predicate? id) =
        .error (.failure ⟨.malformed, "expected true, false or null", 0⟩) := by
      rw [read?, Expression.read_eq, Expression.takeDisjunction_eq,
        Expression.takeConjunction_eq, Expression.takeOperand_primary free]
      rfl
    refine ⟨_, failed, ?_⟩
    apply (compile_error_located .core ⟨0, 0⟩ ["maybe"]).2.2 _ _ Clause.literal id
      Clause.headed_literal.isLocal.leavesSuffix _ _ failed
    intro given error failed
    exact Nat.le_trans (Clause.points_literal failed) (Nat.sub_le _ _)

end Query
end EntryTree
