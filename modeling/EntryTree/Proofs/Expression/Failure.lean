import EntryTree.Proofs.Expression.Locality
import EntryTree.Proofs.Expression.Recognition
import Mathlib.Logic.Relation

/-!
# Failing readings

Readers call one another, and each hands on the errors of those it calls, counted from its own first
token, and their panics. Here a call is a step from one place to another, so what is true of one
call is true of calls within calls by induction.

A reading fails in one of three ways. Tokens are out of order, and one of them is to blame; the
tokens end where an operand is due, which happens behind an opening parenthesis only; or a primary
halts on the tokens it is given.
-/

namespace EntryTree

theorem ParseError.shifted_atToken (error : ParseError) (position offset : Nat) :
    (error.atToken position).shifted offset = error.atToken (position + offset) :=
  rfl

theorem Misplacement.shifted_error (misplacement : Misplacement) (offset : Nat) :
    misplacement.error.shifted offset = misplacement.error.atToken offset := by
  simp [ParseError.shifted, ParseError.atToken, error, ParseError.malformed]

namespace Expression

variable {β : Type} {primary : Primary β} {depth : Nat} {tokens rest : List String}
  {halt : Halt ParseError}

/-! ## Places -/

/-- What is to be read, and how deep it is nested. -/
structure Place where
  level : Level
  depth : Nat
  tokens : List String

namespace Place

/-- What the reader of the level makes of the tokens. -/
def reading (place : Place) (primary : Primary β) : Reading β :=
  place.level.take primary place.depth place.tokens

/-- How many tokens of a place stand before another place within it. -/
def offset (place inner : Place) : Nat :=
  place.tokens.length - inner.tokens.length

end Place

/-- While a reader reads one place it comes to read another, at once or behind what it has read. -/
inductive Enters (primary : Primary β) : Place → Place → Prop
  | negation {depth : Nat} {word : String} {after : List String} (negates : word ∈ ["!", "-not"])
      (starts : startsOperand after = true) (shallow : depth < nestingLimit) :
      Enters primary ⟨.operand, depth, word :: after⟩ ⟨.operand, depth + 1, after⟩
  | group {depth : Nat} {after : List String} (filled : after.head? ≠ some ")")
      (shallow : depth < nestingLimit) :
      Enters primary ⟨.operand, depth, "(" :: after⟩ ⟨.disjunction, depth + 1, after⟩
  | operand {depth : Nat} {tokens : List String} :
      Enters primary ⟨.conjunction, depth, tokens⟩ ⟨.operand, depth, tokens⟩
  | joined {depth : Nat} {word : String} {tokens middle : List String} {left : Expression β}
      (before : DerivesAt primary .conjunction depth tokens left (word :: middle))
      (joins : word ∈ ["-a", "-and"]) (starts : startsOperand middle = true) :
      Enters primary ⟨.conjunction, depth, tokens⟩ ⟨.operand, depth, middle⟩
  | adjacent {depth : Nat} {tokens middle : List String} {left : Expression β}
      (before : DerivesAt primary .conjunction depth tokens left middle)
      (starts : startsOperand middle = true) :
      Enters primary ⟨.conjunction, depth, tokens⟩ ⟨.operand, depth, middle⟩
  | conjunction {depth : Nat} {tokens : List String} :
      Enters primary ⟨.disjunction, depth, tokens⟩ ⟨.conjunction, depth, tokens⟩
  | alternative {depth : Nat} {word : String} {tokens middle : List String} {left : Expression β}
      (before : DerivesAt primary .disjunction depth tokens left (word :: middle))
      (joins : word ∈ ["-o", "-or"]) (starts : startsOperand middle = true) :
      Enters primary ⟨.disjunction, depth, tokens⟩ ⟨.conjunction, depth, middle⟩

/-- While a reader reads one place it comes to read another, by any number of steps. -/
abbrev Reaches (primary : Primary β) : Place → Place → Prop :=
  Relation.ReflTransGen (Enters primary)

/-- While whole tokens are read, an operand is due where `rest` is left. -/
def Awaits (primary : Primary β) (tokens rest : List String) : Prop :=
  ∃ depth, Reaches primary ⟨.disjunction, 0, tokens⟩ ⟨.operand, depth, rest⟩

/-! ## One step -/

namespace Enters

variable {place inner : Place}

theorem suffix (enters : Enters primary place inner) : inner.tokens <:+ place.tokens := by
  cases enters with
  | negation | group => exact List.suffix_cons _ _
  | operand | conjunction => exact List.suffix_refl _
  | @joined _ word tokens middle left before =>
      rw [before.1.tokens_eq]
      exact (List.suffix_cons word middle).trans (List.suffix_append _ _)
  | adjacent before =>
      rw [before.1.tokens_eq]
      exact List.suffix_append _ _
  | @alternative _ word tokens middle left before =>
      rw [before.1.tokens_eq]
      exact (List.suffix_cons word middle).trans (List.suffix_append _ _)

/-- Only behind an opening parenthesis is a place entered without looking for a token. -/
theorem opening (enters : Enters primary place inner) (present : place.tokens ≠ [])
    (empty : inner.tokens = []) : ∃ depth, place = ⟨.operand, depth, ["("]⟩ := by
  cases enters with
  | @group depth after =>
      rcases empty with rfl
      exact ⟨depth, rfl⟩
  | operand => contradiction
  | conjunction => contradiction
  | negation negates starts =>
      rcases empty with rfl
      contradiction
  | joined before joins starts =>
      rcases empty with rfl
      contradiction
  | adjacent before starts =>
      rcases empty with rfl
      contradiction
  | alternative before joins starts =>
      rcases empty with rfl
      contradiction

/-- What is wrong with a place is wrong with every place from which it is entered, further behind by
the tokens in front of it. -/
theorem reading_error (enters : Enters primary place inner)
    (failed : inner.reading primary = .error halt) :
    place.reading primary = .error (halt.shifted (place.offset inner)) := by
  cases enters with
  | negation negates starts shallow =>
      simp only [Place.reading, Place.offset, Level.take] at failed ⊢
      rw [takeOperand_negation (Mark.ofToken?_eq_negation.mpr negates), if_neg (by simp [starts]),
        if_neg (Nat.not_le.mpr shallow), failed]
      simp
  | @group depth after filled shallow =>
      have filled : after.head?.bind Mark.ofToken? ≠ some .closing := by
        intro closes
        rcases Option.bind_eq_some_iff.mp closes with ⟨token, head, mark⟩
        exact filled (Mark.ofToken?_eq_closing.mp mark ▸ head)
      simp only [Place.reading, Place.offset, Level.take] at failed ⊢
      rw [takeOperand_opening (Mark.ofToken?_eq_opening.mpr rfl), if_neg filled,
        if_neg (Nat.not_le.mpr shallow), failed]
      simp
  | operand =>
      simp only [Place.reading, Place.offset, Level.take] at failed ⊢
      rw [takeConjunction_eq, failed, Nat.sub_self, Halt.shifted_zero]
  | joined before joins starts =>
      have taken := before.1.resumes _ before.2
      have less := before.1.length_lt
      rw [List.length_cons] at less
      simp only [Place.reading, Place.offset, Level.take, Level.Resumes] at failed taken ⊢
      rw [taken, extendConjunction_joined (Mark.ofToken?_eq_conjunction.mpr joins),
        if_neg (by simp [starts]), failed]
      simp only [mapError_error, Halt.shifted_shifted, List.length_cons]
      congr 2
      omega
  | adjacent before starts =>
      have taken := before.1.resumes _ before.2
      simp only [Place.reading, Place.offset, Level.take, Level.Resumes] at failed taken ⊢
      rw [taken, extendConjunction_of_starts starts, failed]
      rfl
  | conjunction =>
      simp only [Place.reading, Place.offset, Level.take] at failed ⊢
      rw [takeDisjunction_eq, failed, Nat.sub_self, Halt.shifted_zero]
  | @alternative _ word _ middle _ before joins starts =>
      have ends : Level.conjunction.Ends (word :: middle) := by
        intro token member
        rcases Option.some.inj member with rfl
        exact List.mem_cons_of_mem _ joins
      have taken := before.1.resumes _ before.2 ends
      have less := before.1.length_lt
      rw [List.length_cons] at less
      simp only [Place.reading, Place.offset, Level.take] at failed taken ⊢
      rw [taken, extendDisjunction_joined (Mark.ofToken?_eq_disjunction.mpr joins),
        if_neg (by simp [starts]), failed]
      simp only [mapError_error, Halt.shifted_shifted, List.length_cons]
      congr 2
      omega

end Enters

/-! ## Any number of steps -/

namespace Reaches

variable {place inner : Place}

theorem suffix (reaches : Reaches primary place inner) : inner.tokens <:+ place.tokens := by
  induction reaches with
  | refl => exact List.suffix_refl _
  | tail before enters ih => exact enters.suffix.trans ih

theorem reading_error (reaches : Reaches primary place inner)
    (failed : inner.reading primary = .error halt) :
    place.reading primary = .error (halt.shifted (place.offset inner)) := by
  -- Errors come back from the last step to the first one, so the induction begins at the last one.
  induction reaches using Relation.ReflTransGen.head_induction_on with
  | refl =>
      rw [failed, Place.offset, Nat.sub_self, Halt.shifted_zero]
  | head enters reaches ih =>
      have nearer := enters.suffix.length_le
      have near := (suffix reaches).length_le
      rw [enters.reading_error ih, Halt.shifted_shifted]
      unfold Place.offset
      congr 2
      omega

/-- Where no tokens are left, an operand is due behind an opening parenthesis only. -/
theorem opening (reaches : Reaches primary place inner) (present : place.tokens ≠ [])
    (empty : inner.tokens = []) : ∃ depth, Reaches primary place ⟨.operand, depth, ["("]⟩ := by
  induction reaches using Relation.ReflTransGen.head_induction_on with
  | refl => contradiction
  | @head place next enters reaches ih =>
      by_cases ends : next.tokens = []
      · rcases enters.opening present ends with ⟨depth, rfl⟩
        exact ⟨depth, .refl⟩
      · rcases ih ends with ⟨depth, reaches⟩
        exact ⟨depth, reaches.head enters⟩

end Reaches

/-! ## Where readings fail -/

/-- What is wrong with a place itself, and not with another one that is entered from it. -/
inductive FailsAt (primary : Primary β) : Place → Halt ParseError → Prop
  /-- The tokens are out of order, at one of them. -/
  | misplaced {place : Place} {index : Nat} (misplacement : Misplacement)
      (inside : index < place.tokens.length) :
      FailsAt primary place (misplacement.error.atToken index)
  /-- No tokens are left. -/
  | missing {depth : Nat} :
      FailsAt primary ⟨.operand, depth, []⟩ Misplacement.nothingThere.error
  /-- The primary refuses the tokens that are left. -/
  | refused {depth : Nat} {word : String} {after : List String} {fault : Halt ParseError}
      (free : word ∉ Mark.words) (refuses : primary (word :: after) = .error fault) :
      FailsAt primary ⟨.operand, depth, word :: after⟩ fault.committed

/-- Something is wrong with a place itself, or with one that is entered from it. -/
inductive FailsBy (primary : Primary β) (place : Place) : Halt ParseError → Prop
  | here {halt : Halt ParseError} (fails : FailsAt primary place halt) : FailsBy primary place halt
  | inside {inner : Place} {fault : Halt ParseError} (enters : Enters primary place inner)
      (failed : inner.reading primary = .error fault) :
      FailsBy primary place (fault.shifted (place.offset inner))

namespace FailsBy

variable {place inner : Place}

theorem of_misplacement {misplacement : Misplacement} (present : place.tokens ≠ [])
    (failed : (.error misplacement.error : Reading β) = .error halt) :
    FailsBy primary place halt := by
  rcases Except.error.inj failed with rfl
  exact .here (.misplaced misplacement (List.length_pos_iff.mpr present))

theorem misplaced {offset : Nat} (misplacement : Misplacement)
    (inside : offset < place.tokens.length) :
    FailsBy primary place (misplacement.error.shifted offset) := by
  rw [misplacement.shifted_error]
  exact .here (.misplaced misplacement inside)

theorem inside_of {fault : Halt ParseError} {offset : Nat} (enters : Enters primary place inner)
    (failed : inner.reading primary = .error fault)
    (length : place.tokens.length = inner.tokens.length + offset) :
    FailsBy primary place (fault.shifted offset) := by
  have fails := FailsBy.inside enters failed
  rwa [Place.offset, length, Nat.add_sub_cancel_left] at fails

end FailsBy

theorem failsBy_operand (failed : takeOperand primary depth tokens = .error halt) :
    FailsBy primary ⟨.operand, depth, tokens⟩ halt := by
  rcases tokens with _ | ⟨token, after⟩
  · rw [takeOperand_nil] at failed
    rcases Except.error.inj failed with rfl
    exact .here .missing
  have present : token :: after ≠ [] := List.cons_ne_nil token after
  rcases mark : Mark.ofToken? token with _ | mark'
  · rw [takeOperand_primary mark, takePrimary_eq] at failed
    split at failed
    · next fault refuses =>
        rcases Except.error.inj failed with rfl
        exact .here (.refused (Mark.ofToken?_eq_none.mp mark) refuses)
    · dsimp only at failed
      split at failed
      · contradiction
      · exact .of_misplacement present failed
  cases mark' with
  | negation =>
      rw [takeOperand_negation mark] at failed
      split at failed
      · exact .of_misplacement present failed
      split at failed
      · exact .of_misplacement present failed
      split at failed
      · next starts shallow _ fault inner =>
          rcases Except.error.inj failed with rfl
          rw [Bool.not_eq_true, Bool.not_eq_false'] at starts
          have negates := Mark.ofToken?_eq_negation.mp mark
          exact .inside_of (.negation negates starts (Nat.not_le.mp shallow)) inner rfl
      · contradiction
  | opening =>
      rcases Mark.ofToken?_eq_opening.mp mark with rfl
      rw [takeOperand_opening mark] at failed
      split at failed
      · exact .of_misplacement present failed
      split at failed
      · exact .of_misplacement present failed
      split at failed
      · next filled shallow _ fault inner =>
          rcases Except.error.inj failed with rfl
          refine .inside_of (.group ?_ (Nat.not_le.mp shallow)) inner rfl
          intro closes
          rw [closes] at filled
          exact filled (Mark.ofToken?_eq_closing.mpr rfl)
      · exact .of_misplacement present failed
      · split at failed
        · contradiction
        · exact .of_misplacement present failed
  | closing =>
      rw [takeOperand_closing mark] at failed
      exact .of_misplacement present failed
  | disjunction =>
      rw [takeOperand_joining (.inl mark)] at failed
      exact .of_misplacement present failed
  | conjunction =>
      rw [takeOperand_joining (.inr mark)] at failed
      exact .of_misplacement present failed

section Extending

variable {start : List String} {left : Expression β} {offset : Nat}

/-- What fails in a conjunction behind what has been read of it. -/
theorem failsBy_extendConjunction (suffix : primary.LeavesSuffix)
    (before : DerivesAt primary .conjunction depth start left tokens)
    (length : start.length = tokens.length + offset)
    (failed : extendConjunction primary depth left tokens = .error halt) :
    FailsBy primary ⟨.conjunction, depth, start⟩ (halt.shifted offset) := by
  -- What has been read grows with every operand, while the place that all of it is read from stays.
  induction tokens using (measure List.length).wf.induction generalizing left halt offset with
  | h tokens ih =>
      have within : depth ≤ nestingLimit := Nat.le_of_add_right_le before.2
      rcases tokens with _ | ⟨token, after⟩
      · rw [extendConjunction_nil] at failed
        contradiction
      by_cases ends : Mark.ofToken? token = some .disjunction ∨ Mark.ofToken? token = some .closing
      · rw [extendConjunction_ending ends] at failed
        contradiction
      rw [not_or] at ends
      by_cases joins : Mark.ofToken? token = some .conjunction
      · have word := Mark.ofToken?_eq_conjunction.mp joins
        rw [List.length_cons] at length
        rw [extendConjunction_joined joins] at failed
        split at failed
        · rcases Except.error.inj failed with rfl
          refine .misplaced _ ?_
          dsimp only
          omega
        · next starts =>
            rw [Bool.not_eq_true, Bool.not_eq_false'] at starts
            split at failed
            · next fault inner =>
                rcases Except.error.inj failed with rfl
                rw [Halt.shifted_shifted]
                refine .inside_of (.joined before word starts) inner ?_
                dsimp only
                omega
            · next right rest answered =>
                rcases mapError_eq_error.mp failed with ⟨fault, further, rfl⟩
                have second := sound suffix .operand _ _ _ _ within answered
                have less := second.1.length_lt
                rw [Halt.shifted_shifted, List.length_cons]
                refine ih rest (Nat.lt_succ_of_lt less) (before.joined word second) ?_ further
                omega
      · rw [extendConjunction_adjacent ends.1 ends.2 joins] at failed
        split at failed
        · next fault inner =>
            rcases Except.error.inj failed with rfl
            refine .inside_of (.adjacent before ?_) inner length
            rw [startsOperand]
            grind
        · next right rest answered =>
            rcases mapError_eq_error.mp failed with ⟨fault, further, rfl⟩
            have second := sound suffix .operand _ _ _ _ within answered
            have less := second.1.length_lt
            rw [Halt.shifted_shifted]
            refine ih rest less (before.adjacent second) ?_ further
            omega

theorem failsBy_extendDisjunction (suffix : primary.LeavesSuffix)
    (before : DerivesAt primary .disjunction depth start left tokens)
    (length : start.length = tokens.length + offset)
    (failed : extendDisjunction primary depth left tokens = .error halt) :
    FailsBy primary ⟨.disjunction, depth, start⟩ (halt.shifted offset) := by
  induction tokens using (measure List.length).wf.induction generalizing left halt offset with
  | h tokens ih =>
      have within : depth ≤ nestingLimit := Nat.le_of_add_right_le before.2
      rcases tokens with _ | ⟨token, after⟩
      · rw [extendDisjunction_nil] at failed
        contradiction
      by_cases joins : Mark.ofToken? token = some .disjunction
      · have word := Mark.ofToken?_eq_disjunction.mp joins
        rw [List.length_cons] at length
        rw [extendDisjunction_joined joins] at failed
        split at failed
        · rcases Except.error.inj failed with rfl
          refine .misplaced _ ?_
          dsimp only
          omega
        · next starts =>
            rw [Bool.not_eq_true, Bool.not_eq_false'] at starts
            split at failed
            · next fault inner =>
                rcases Except.error.inj failed with rfl
                rw [Halt.shifted_shifted]
                refine .inside_of (.alternative before word starts) inner ?_
                dsimp only
                omega
            · next right rest answered =>
                rcases mapError_eq_error.mp failed with ⟨fault, further, rfl⟩
                have second := sound suffix .conjunction _ _ _ _ within answered
                have less := second.1.length_lt
                rw [Halt.shifted_shifted, List.length_cons]
                refine ih rest (Nat.lt_succ_of_lt less) (before.alternative word second) ?_ further
                omega
      · rw [extendDisjunction_ending joins] at failed
        contradiction

end Extending

/-- A reader that fails has found something wrong, or has called one that fails. -/
theorem failsBy_of_reading (suffix : primary.LeavesSuffix) {place : Place}
    (within : place.depth ≤ nestingLimit) (failed : place.reading primary = .error halt) :
    FailsBy primary place halt := by
  rcases place with ⟨level, depth, tokens⟩
  cases level with
  | operand => exact failsBy_operand failed
  | conjunction =>
      have answer := failed
      simp only [Place.reading, Level.take, takeConjunction_eq] at answer
      split at answer
      · next fault inner =>
          rcases Except.error.inj answer with rfl
          have fails := FailsBy.inside_of .operand inner (Nat.add_zero _).symm
          rwa [Halt.shifted_zero] at fails
      · next first rest answered =>
          rcases mapError_eq_error.mp answer with ⟨fault, further, rfl⟩
          have derived := sound suffix .operand _ _ _ _ within answered
          have less := derived.1.length_lt
          refine failsBy_extendConjunction suffix ⟨.operand derived.1, derived.2⟩ ?_ further
          omega
  | disjunction =>
      have answer := failed
      simp only [Place.reading, Level.take, takeDisjunction_eq] at answer
      split at answer
      · next fault inner =>
          rcases Except.error.inj answer with rfl
          have fails := FailsBy.inside_of .conjunction inner (Nat.add_zero _).symm
          rwa [Halt.shifted_zero] at fails
      · next first rest answered =>
          rcases mapError_eq_error.mp answer with ⟨fault, further, rfl⟩
          have derived := sound suffix .conjunction _ _ _ _ within answered
          have less := derived.1.length_lt
          refine failsBy_extendDisjunction suffix ⟨.conjunction derived.1, derived.2⟩ ?_ further
          omega

/-- How far a place is from the tightest place with no tokens. A reader that calls another one calls
it for a place that is nearer. -/
def Place.size (place : Place) : Nat :=
  3 * place.tokens.length +
    match place.level with
    | .operand => 0
    | .conjunction => 1
    | .disjunction => 2

theorem Enters.size_lt {place inner : Place} (enters : Enters primary place inner) :
    inner.size < place.size := by
  cases enters with
  | negation | group | operand | conjunction => simp only [Place.size, List.length_cons]; omega
  | joined before =>
      have less := before.1.length_lt
      simp only [Place.size, List.length_cons] at *
      omega
  | adjacent before =>
      have less := before.1.length_lt
      simp only [Place.size] at *
      omega
  | alternative before =>
      have less := before.1.length_lt
      simp only [Place.size, List.length_cons] at *
      omega

theorem Enters.within {place inner : Place} (enters : Enters primary place inner)
    (within : place.depth ≤ nestingLimit) : inner.depth ≤ nestingLimit := by
  cases enters with
  | negation negates starts shallow => exact shallow
  | group filled shallow => exact shallow
  | operand | joined | adjacent | conjunction | alternative => exact within

/-- A reader that fails has come to a place where something is wrong. -/
theorem failsAt_of_reading (suffix : primary.LeavesSuffix) {place : Place}
    (within : place.depth ≤ nestingLimit) (failed : place.reading primary = .error halt) :
    ∃ inner fault, Reaches primary place inner ∧ FailsAt primary inner fault ∧
      halt = fault.shifted (place.offset inner) := by
  induction place using (measure Place.size).wf.induction generalizing halt with
  | h place ih =>
      cases failsBy_of_reading suffix within failed with
      | here fails =>
          refine ⟨place, halt, .refl, fails, ?_⟩
          rw [Place.offset, Nat.sub_self, Halt.shifted_zero]
      | @inside next _ enters further =>
          rcases ih next enters.size_lt (enters.within within) further with
            ⟨inner, fault, reaches, fails, rfl⟩
          refine ⟨inner, fault, reaches.head enters, fails, ?_⟩
          have near := enters.suffix.length_le
          have nearer := reaches.suffix.length_le
          rw [Halt.shifted_shifted]
          unfold Place.offset
          congr 1
          omega

/-! ## Whole token lists -/

/-- What can be wrong with a whole token list, and the error for it. -/
inductive Failure (primary : Primary β) (tokens : List String) : Halt ParseError → Prop
  /-- The tokens are out of order, at one of them. -/
  | misplaced {index : Nat} (misplacement : Misplacement) (inside : index < tokens.length) :
      Failure primary tokens (misplacement.error.atToken index)
  /-- The tokens end behind an opening parenthesis. -/
  | missing (awaits : Awaits primary tokens ["("]) :
      Failure primary tokens (Misplacement.nothingThere.error.atToken tokens.length)
  /-- Where an operand is due, the primary refuses the tokens that are left. -/
  | refused {index : Nat} {word : String} {after : List String} {fault : Halt ParseError}
      (awaits : Awaits primary tokens (word :: after)) (left : tokens.drop index = word :: after)
      (free : word ∉ Mark.words) (refuses : primary (word :: after) = .error fault) :
      Failure primary tokens (fault.committed.shifted index)

theorem length_of_drop {index : Nat} {word : String} {after : List String}
    (left : tokens.drop index = word :: after) :
    tokens.length = index + (word :: after).length := by
  have length := congrArg List.length left
  rw [List.length_drop, List.length_cons] at length
  rw [List.length_cons]
  omega

theorem failure_of_read? (suffix : primary.LeavesSuffix)
    (failed : read? primary tokens = .error halt) : Failure primary tokens halt := by
  rw [read?] at failed
  split at failed
  · contradiction
  next present =>
    rw [List.isEmpty_iff] at present
    rw [map_eq_error, read_eq] at failed
    split at failed
    · next fault taken =>
        rcases Except.error.inj failed with rfl
        have reading : Place.reading ⟨.disjunction, 0, tokens⟩ primary = .error fault := taken
        rcases failsAt_of_reading suffix (Nat.zero_le _) reading with
          ⟨inner, fault, reaches, fails, rfl⟩
        have shorter := reaches.suffix.length_le
        cases fails with
        | misplaced misplacement inside =>
            rw [Halt.shifted_failure, ParseError.shifted_atToken]
            refine .misplaced misplacement ?_
            simp only [Place.offset] at *
            omega
        | missing =>
            rcases reaches.opening present rfl with ⟨depth, reaches⟩
            have missing := Failure.missing ⟨depth, reaches⟩
            rwa [← Misplacement.shifted_error] at missing
        | refused free refuses =>
            have left := List.suffix_iff_eq_drop.mp reaches.suffix
            exact .refused ⟨_, reaches⟩ left.symm free refuses
    · contradiction
    · next whole token rest taken =>
        rcases Except.error.inj failed with rfl
        refine .misplaced (.leftover token) ?_
        have some := List.length_pos_iff.mpr present
        rw [List.length_cons]
        omega

/-- Where an operand is due and the primary refuses the tokens that are left, everything fails. -/
theorem read?_of_refused {index : Nat} {word : String} {after : List String}
    {fault : Halt ParseError} (awaits : Awaits primary tokens (word :: after))
    (left : tokens.drop index = word :: after)
    (free : word ∉ Mark.words) (refuses : primary (word :: after) = .error fault) :
    read? primary tokens = .error (fault.committed.shifted index) := by
  rcases awaits with ⟨depth, reaches⟩
  have refused : Place.reading ⟨.operand, depth, word :: after⟩ primary =
      .error fault.committed := by
    simp only [Place.reading, Level.take, takeOperand_primary (Mark.ofToken?_eq_none.mpr free),
      takePrimary_eq, refuses]
  have failed := reaches.reading_error refused
  simp only [Place.offset, length_of_drop left, Nat.add_sub_cancel] at failed
  have taken : takeDisjunction primary 0 tokens = .error (fault.committed.shifted index) := failed
  have present : tokens.isEmpty = false := by
    cases tokens with
    | nil => simp at left
    | cons token others => rfl
  rw [read?, present, read_eq, taken]
  rfl

/-- If no error of a primary lies behind the end of the tokens it is given, then no error of a whole
token list does. All errors of whole token lists are final. -/
theorem Failure.located {error : ParseError}
    (bounded : ∀ tokens (error : ParseError), primary tokens = .error error →
      error.position ≤ tokens.length)
    (failure : Failure primary tokens error) :
    error.kind = .malformed ∧ error.position ≤ tokens.length := by
  generalize same : Halt.failure error = halt at failure
  cases failure with
  | misplaced misplacement inside =>
      rcases Halt.failure.inj same with rfl
      exact ⟨rfl, Nat.le_of_lt inside⟩
  | missing =>
      rcases Halt.failure.inj same with rfl
      exact ⟨rfl, Nat.le_refl _⟩
  | @refused index word after halt awaits left free refuses =>
      rcases Halt.map_eq_failure.mp same.symm with ⟨final, committed, rfl⟩
      rcases Halt.map_eq_failure.mp committed with ⟨fault, rfl, rfl⟩
      refine ⟨rfl, ?_⟩
      rw [length_of_drop left, Nat.add_comm]
      exact Nat.add_le_add_right (bounded _ _ refuses) _

end Expression
end EntryTree
