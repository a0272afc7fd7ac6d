import EntryTree.Expression.Arithmetic
import EntryTree.Proofs.Expression.Grammar

/-!
# Readers recognize the grammar

The readers answer only with what is derived, and they find every derivation that nests no deeper
than they allow. Both are shown level by level. The first is by induction on the number of tokens,
for a reader goes back to the loosest level inside a group. The second is by induction on the
derivation.
-/

namespace EntryTree.Expression

variable {β : Type} {primary : Primary β} {depth : Nat} {tokens rest : List String}
  {whole : Expression β}

/-- The expression is what the whole token list says, within the limit of nesting. -/
structure IsReadingOf (whole : Expression β) (primary : Primary β) (tokens : List String) :
    Prop where
  derived : Derives primary .disjunction tokens whole []
  shallow : whole.nesting ≤ nestingLimit

/-! ## Readings are derived -/

/-- The reader of a level. -/
def Level.take : Level → Primary β → Nat → List String → Reading β
  | .operand => takeOperand
  | .conjunction => takeConjunction
  | .disjunction => takeDisjunction

/-- There is a derivation that fits below the limit when it begins at some depth. -/
def DerivesAt (primary : Primary β) (level : Level) (depth : Nat) (tokens : List String)
    (whole : Expression β) (rest : List String) : Prop :=
  Derives primary level tokens whole rest ∧ depth + whole.nesting ≤ nestingLimit

section Within

variable {middle : List String} {word : String} {left right : Expression β}

theorem DerivesAt.joined (first : DerivesAt primary .conjunction depth tokens left (word :: middle))
    (joins : word ∈ ["-a", "-and"]) (second : DerivesAt primary .operand depth middle right rest) :
    DerivesAt primary .conjunction depth tokens (.conjunction left (some word) right) rest := by
  rcases first with ⟨first, fits⟩
  rcases second with ⟨second, fitsSecond⟩
  refine ⟨.joined first joins second, ?_⟩
  rw [nesting]
  omega

theorem DerivesAt.adjacent (first : DerivesAt primary .conjunction depth tokens left middle)
    (second : DerivesAt primary .operand depth middle right rest) :
    DerivesAt primary .conjunction depth tokens (.conjunction left none right) rest := by
  rcases first with ⟨first, fits⟩
  rcases second with ⟨second, fitsSecond⟩
  refine ⟨.adjacent first second, ?_⟩
  rw [nesting]
  omega

theorem DerivesAt.alternative
    (first : DerivesAt primary .disjunction depth tokens left (word :: middle))
    (joins : word ∈ ["-o", "-or"])
    (second : DerivesAt primary .conjunction depth middle right rest) :
    DerivesAt primary .disjunction depth tokens (.disjunction left word right) rest := by
  rcases first with ⟨first, fits⟩
  rcases second with ⟨second, fitsSecond⟩
  refine ⟨.alternative first joins second, ?_⟩
  rw [nesting]
  omega

end Within

/-- What the reader of a level answers for a token list is derived. -/
def Level.Sound (level : Level) (primary : Primary β) (tokens : List String) : Prop :=
  ∀ depth whole rest, depth ≤ nestingLimit → level.take primary depth tokens = .ok (whole, rest) →
    DerivesAt primary level depth tokens whole rest

theorem sound_operand (suffix : primary.LeavesSuffix)
    (shorter : ∀ after : List String, after.length < tokens.length →
      ∀ level : Level, level.Sound primary after) :
    Level.operand.Sound primary tokens := by
  intro depth whole rest within taken
  rcases takeOperand_cases taken with
    ⟨word, after, operand, rfl, rfl, mark, shallow, answered⟩ |
    ⟨word, after, inner, closing, rfl, rfl, opens, closes, shallow, answered⟩ |
    ⟨word, after, rfl, mark, taken⟩
  · rcases shorter after (Nat.lt_succ_self _) .operand _ _ _ shallow answered with ⟨derived, fits⟩
    refine ⟨.negation (Mark.ofToken?_eq_negation.mp mark) derived, ?_⟩
    rw [nesting]
    omega
  · rcases shorter after (Nat.lt_succ_self _) .disjunction _ _ _ shallow answered with
      ⟨derived, fits⟩
    rw [Mark.ofToken?_eq_opening] at opens
    rw [Mark.ofToken?_eq_closing] at closes
    subst opens closes
    refine ⟨.group derived, ?_⟩
    rw [nesting]
    omega
  · rcases takePrimary_cases suffix taken with ⟨words, meaning, nonempty, split, rfl, answered⟩
    cases words with
    | nil => contradiction
    | cons first words =>
        rcases List.cons.inj split with ⟨rfl, rfl⟩
        exact ⟨.primary (Mark.ofToken?_eq_none.mp mark) answered, within⟩

section Extending

variable {bound : Nat} {start : List String} {left : Expression β}

/-- Extending a conjunction by what follows it yields a conjunction. -/
theorem derivesAt_of_extendConjunction
    (operands : ∀ after : List String, after.length < bound → Level.operand.Sound primary after)
    (short : tokens.length < bound)
    (before : DerivesAt primary .conjunction depth start left tokens)
    (extended : extendConjunction primary depth left tokens = .ok (whole, rest)) :
    DerivesAt primary .conjunction depth start whole rest := by
  induction tokens using (measure List.length).wf.induction generalizing left with
  | h tokens ih =>
      have within : depth ≤ nestingLimit := Nat.le_of_add_right_le before.2
      rcases extendConjunction_cases extended with
        ⟨rfl, rfl⟩ | ⟨word, after, right, middle, rfl, joins, answered, extended⟩ |
        ⟨right, middle, answered, extended⟩
      · exact before
      · rw [List.length_cons] at short
        have second := operands after (by omega) _ _ _ within answered
        have less := second.1.length_lt
        apply ih middle (Nat.lt_succ_of_lt less) (by omega) _ extended
        exact before.joined (Mark.ofToken?_eq_conjunction.mp joins) second
      · have second := operands tokens short _ _ _ within answered
        have less := second.1.length_lt
        exact ih middle less (by omega) (before.adjacent second) extended

/-- Extending a disjunction by what follows it yields a disjunction. -/
theorem derivesAt_of_extendDisjunction
    (conjunctions : ∀ after : List String, after.length < bound →
      Level.conjunction.Sound primary after)
    (short : tokens.length < bound)
    (before : DerivesAt primary .disjunction depth start left tokens)
    (extended : extendDisjunction primary depth left tokens = .ok (whole, rest)) :
    DerivesAt primary .disjunction depth start whole rest := by
  induction tokens using (measure List.length).wf.induction generalizing left with
  | h tokens ih =>
      have within : depth ≤ nestingLimit := Nat.le_of_add_right_le before.2
      rcases extendDisjunction_cases extended with
        ⟨rfl, rfl⟩ | ⟨word, after, right, middle, rfl, joins, answered, extended⟩
      · exact before
      · rw [List.length_cons] at short
        have second := conjunctions after (by omega) _ _ _ within answered
        have less := second.1.length_lt
        apply ih middle (Nat.lt_succ_of_lt less) (by omega) _ extended
        exact before.alternative (Mark.ofToken?_eq_disjunction.mp joins) second

end Extending

theorem sound_conjunction (operand : Level.operand.Sound primary tokens)
    (shorter : ∀ after : List String, after.length < tokens.length →
      Level.operand.Sound primary after) :
    Level.conjunction.Sound primary tokens := by
  intro depth whole rest within taken
  rcases takeConjunction_cases taken with ⟨first, middle, answered, extended⟩
  rcases operand _ _ _ within answered with ⟨derived, fits⟩
  apply derivesAt_of_extendConjunction shorter derived.length_lt _ extended
  exact ⟨.operand derived, fits⟩

theorem sound_disjunction (conjunction : Level.conjunction.Sound primary tokens)
    (shorter : ∀ after : List String, after.length < tokens.length →
      Level.conjunction.Sound primary after) :
    Level.disjunction.Sound primary tokens := by
  intro depth whole rest within taken
  rcases takeDisjunction_cases taken with ⟨first, middle, answered, extended⟩
  rcases conjunction _ _ _ within answered with ⟨derived, fits⟩
  apply derivesAt_of_extendDisjunction shorter derived.length_lt _ extended
  exact ⟨.conjunction derived, fits⟩

/-- Every reader answers with what is derived at its level. -/
theorem sound (suffix : primary.LeavesSuffix) (level : Level) (tokens : List String) :
    level.Sound primary tokens := by
  induction level, tokens using Level.induction with
  | operand tokens shorter => exact sound_operand suffix shorter
  | conjunction tokens shorter operand =>
      apply sound_conjunction operand
      intro after short
      exact shorter after short .operand
  | disjunction tokens shorter conjunction =>
      apply sound_disjunction conjunction
      intro after short
      exact shorter after short .conjunction

/-! ## Derivations are read -/

theorem extendConjunction_of_ends (ends : Level.conjunction.Ends tokens) :
    extendConjunction primary depth whole tokens = .ok (whole, tokens) := by
  cases tokens with
  | nil => exact extendConjunction_nil primary depth whole
  | cons token after =>
      apply extendConjunction_ending
      rw [Mark.ofToken?_eq_disjunction, Mark.ofToken?_eq_closing]
      have ending := ends token rfl
      grind

theorem extendDisjunction_of_ends (ends : Level.disjunction.Ends tokens) :
    extendDisjunction primary depth whole tokens = .ok (whole, tokens) := by
  cases tokens with
  | nil => exact extendDisjunction_nil primary depth whole
  | cons token after =>
      apply extendDisjunction_ending
      rw [ends token rfl]
      decide

theorem takePrimary_of_answered {words : List String} {meaning : β} (nonempty : words ≠ [])
    (answered : primary (words ++ rest) = .ok (meaning, rest)) :
    takePrimary primary (words ++ rest) = .ok (.primary words meaning, rest) := by
  rw [takePrimary_eq, answered]
  simp [List.length_pos_iff.mpr nonempty]

theorem takeDisjunction_of_ends
    (taken : takeDisjunction primary depth tokens =
      (extendDisjunction primary depth whole rest).mapError
        (·.shifted (tokens.length - rest.length)))
    (ends : Level.disjunction.Ends rest) :
    takeDisjunction primary depth tokens = .ok (whole, rest) := by
  rw [taken, extendDisjunction_of_ends ends]
  rfl

theorem mapError_shifted {α : Type} (answer : Except (Halt ParseError) α) (first second : Nat) :
    (answer.mapError (·.shifted first)).mapError (·.shifted second) =
      answer.mapError (·.shifted (first + second)) := by
  cases answer with
  | error error => simp only [mapError_error, Halt.shifted_shifted]
  | ok value => rfl

section Going

variable {left right : Expression β} {middle : List String}

/-- Where an operand may begin, a conjunction goes on with it. -/
theorem extendConjunction_of_starts (starts : startsOperand tokens = true) :
    extendConjunction primary depth left tokens =
      match takeOperand primary depth tokens with
      | .error error => .error error
      | .ok (right, rest) =>
        (extendConjunction primary depth (.conjunction left none right) rest).mapError
          (·.shifted (tokens.length - rest.length)) := by
  cases tokens with
  | nil => contradiction
  | cons token after =>
      have marks : Mark.ofToken? token ≠ some .closing ∧
          Mark.ofToken? token ≠ some .disjunction ∧ Mark.ofToken? token ≠ some .conjunction := by
        refine ⟨?_, ?_, ?_⟩ <;> intro mark <;> simp [startsOperand, mark] at starts
      exact extendConjunction_adjacent marks.2.1 marks.1 marks.2.2

theorem extendConjunction_of_adjacent (starts : startsOperand tokens = true)
    (taken : takeOperand primary depth tokens = .ok (right, middle)) :
    extendConjunction primary depth left tokens =
      (extendConjunction primary depth (.conjunction left none right) middle).mapError
        (·.shifted (tokens.length - middle.length)) := by
  rw [extendConjunction_of_starts starts, taken]

theorem extendConjunction_of_joined (joins : token ∈ ["-a", "-and"])
    (starts : startsOperand tokens = true)
    (taken : takeOperand primary depth tokens = .ok (right, middle)) :
    extendConjunction primary depth left (token :: tokens) =
      (extendConjunction primary depth (.conjunction left (some token) right) middle).mapError
        (·.shifted ((token :: tokens).length - middle.length)) := by
  rw [extendConjunction_joined (Mark.ofToken?_eq_conjunction.mpr joins), if_neg (by simp [starts]),
    taken]

theorem extendDisjunction_of_joined (joins : token ∈ ["-o", "-or"])
    (starts : startsOperand tokens = true)
    (taken : takeConjunction primary depth tokens = .ok (right, middle)) :
    extendDisjunction primary depth left (token :: tokens) =
      (extendDisjunction primary depth (.disjunction left token right) middle).mapError
        (·.shifted ((token :: tokens).length - middle.length)) := by
  rw [extendDisjunction_joined (Mark.ofToken?_eq_disjunction.mpr joins), if_neg (by simp [starts]),
    taken]

end Going

/-- What a reader makes of a derivation, whatever comes after it. After a conjunction or a
disjunction it goes on as long as it can, and fails where this fails. -/
def Level.Resumes (primary : Primary β) (depth : Nat) (tokens : List String)
    (whole : Expression β) (rest : List String) : Level → Prop
  | .operand => takeOperand primary depth tokens = .ok (whole, rest)
  | .conjunction => takeConjunction primary depth tokens =
      (extendConjunction primary depth whole rest).mapError
        (·.shifted (tokens.length - rest.length))
  | .disjunction => Level.conjunction.Ends rest → takeDisjunction primary depth tokens =
      (extendDisjunction primary depth whole rest).mapError
        (·.shifted (tokens.length - rest.length))

/-- The readers find every derivation that fits below the limit, and go on behind it. -/
theorem Derives.resumes {level : Level} (derived : Derives primary level tokens whole rest)
    (depth : Nat) (fits : depth + whole.nesting ≤ nestingLimit) :
    level.Resumes primary depth tokens whole rest := by
  induction derived generalizing depth with
  | @primary word words rest meaning free answered =>
      rw [Level.Resumes, takeOperand_primary (Mark.ofToken?_eq_none.mpr free)]
      exact takePrimary_of_answered (List.cons_ne_nil word words) answered
  | @negation word tokens rest operand negates derived ih =>
      rw [nesting] at fits
      have shallow : ¬nestingLimit ≤ depth := by omega
      have answered : takeOperand primary (depth + 1) tokens = .ok (operand, rest) :=
        ih (depth + 1) (by omega)
      simp [Level.Resumes, takeOperand_negation (Mark.ofToken?_eq_negation.mpr negates),
        derived.startsOperand, shallow, answered]
  | @group tokens rest inner derived ih =>
      rw [nesting] at fits
      have shallow : ¬nestingLimit ≤ depth := by omega
      have closes : Mark.ofToken? ")" = some .closing := Mark.ofToken?_eq_closing.mpr rfl
      have answered : takeDisjunction primary (depth + 1) tokens = .ok (inner, ")" :: rest) :=
        takeDisjunction_of_ends (ih (depth + 1) (by omega) (by simp [Level.Ends]))
          (by simp [Level.Ends])
      have starts := derived.startsOperand
      have nonempty : ¬tokens.head?.bind Mark.ofToken? = some .closing := by
        cases tokens with
        | nil => simp
        | cons token after =>
            intro mark
            rw [List.head?_cons, Option.bind_some] at mark
            simp [Expression.startsOperand, mark] at starts
      simp [Level.Resumes, takeOperand_opening (Mark.ofToken?_eq_opening.mpr rfl), nonempty,
        shallow, answered, closes]
  | @operand tokens rest whole derived ih =>
      have answered : takeOperand primary depth tokens = .ok (whole, rest) := ih depth fits
      rw [Level.Resumes, takeConjunction_eq, answered]
  | @joined word tokens middle rest left right first joins second ihFirst ihSecond =>
      rw [nesting] at fits
      have taken := ihFirst depth (by omega)
      have answered : takeOperand primary depth middle = .ok (right, rest) :=
        ihSecond depth (by omega)
      have places : (word :: middle).length - rest.length +
          (tokens.length - (word :: middle).length) = tokens.length - rest.length := by
        have before := first.length_lt
        have after := second.length_lt
        rw [List.length_cons] at *
        omega
      rw [Level.Resumes] at taken ⊢
      rw [taken, extendConjunction_of_joined joins second.startsOperand answered,
        mapError_shifted, places]
  | @adjacent tokens middle rest left right first second ihFirst ihSecond =>
      rw [nesting] at fits
      have taken := ihFirst depth (by omega)
      have answered : takeOperand primary depth middle = .ok (right, rest) :=
        ihSecond depth (by omega)
      have places : middle.length - rest.length + (tokens.length - middle.length) =
          tokens.length - rest.length := by
        have before := first.length_lt
        have after := second.length_lt
        omega
      rw [Level.Resumes] at taken ⊢
      rw [taken, extendConjunction_of_adjacent second.startsOperand answered, mapError_shifted,
        places]
  | @conjunction tokens rest whole derived ih =>
      intro ends
      have taken := ih depth fits
      rw [Level.Resumes, extendConjunction_of_ends ends] at taken
      rw [takeDisjunction_eq, taken]
      rfl
  | @alternative word tokens middle rest left right first joins second ihFirst ihSecond =>
      rw [nesting] at fits
      intro ends
      have taken := ihFirst depth (by omega) (by simp_all [Level.Ends])
      have answered := ihSecond depth (by omega)
      rw [Level.Resumes, extendConjunction_of_ends ends] at answered
      have places : (word :: middle).length - rest.length +
          (tokens.length - (word :: middle).length) = tokens.length - rest.length := by
        have before := first.length_lt
        have after := second.length_lt
        rw [List.length_cons] at *
        omega
      rw [taken, extendDisjunction_of_joined joins second.startsOperand answered,
        mapError_shifted, places]

/-! ## Whole token lists -/

/-- The reader answers with the reading of a token list, if there is one. -/
theorem read_eq_ok_iff (suffix : primary.LeavesSuffix) :
    read primary tokens = .ok whole ↔ whole.IsReadingOf primary tokens := by
  constructor
  · intro answered
    rw [read_eq] at answered
    split at answered
    · contradiction
    · next inner taken =>
        rcases Except.ok.inj answered with rfl
        rcases sound suffix .disjunction tokens 0 _ _ (Nat.zero_le _) taken with ⟨derived, fits⟩
        exact ⟨derived, by omega⟩
    · contradiction
  · rintro ⟨derived, shallow⟩
    have taken : takeDisjunction primary 0 tokens = .ok (whole, []) :=
      takeDisjunction_of_ends (derived.resumes 0 (by omega) (by simp [Level.Ends]))
        (by simp [Level.Ends])
    rw [read_eq, taken]

/-- What was read is written with the tokens it was read from. -/
theorem tokens_of_read (suffix : primary.LeavesSuffix)
    (answered : read primary tokens = .ok whole) : whole.tokens = tokens := by
  have reading := (read_eq_ok_iff suffix).mp answered
  rw [reading.derived.tokens_eq, List.append_nil]

theorem IsReadingOf.ne_nil (reading : whole.IsReadingOf primary tokens) : tokens ≠ [] := by
  rcases reading.derived.head with ⟨token, after, rfl, _⟩
  exact List.cons_ne_nil token after

/-- A predicate is compiled from a reading, or it is the one that accepts everything. -/
theorem compiled_iff {α : Type} (suffix : primary.LeavesSuffix) {interpret : β → Predicate Id α}
    {predicate : Predicate Id α} :
    (read? primary tokens).map (predicate? interpret) = .ok predicate ↔
      tokens = [] ∧ predicate = .always true ∨
      ∃ whole, IsReadingOf whole primary tokens ∧ predicate = whole.predicate interpret := by
  cases tokens with
  | nil =>
      have none : ∀ whole : Expression β, ¬whole.IsReadingOf primary [] := by
        intro whole reading
        exact reading.ne_nil rfl
      simp [read?, predicate?, Except.map, none, eq_comm]
  | cons token after =>
      simp only [← read_eq_ok_iff suffix, List.cons_ne_nil, false_and, false_or, read?,
        List.isEmpty_cons, Bool.false_eq_true, if_false]
      cases read primary (token :: after) <;> simp [Except.map, predicate?, eq_comm]

/-- Token lists are compiled if they are empty or derivable within the limit of nesting. There is
one derivation at most, and the predicate has its truth value. -/
theorem recognizes_grammar {α : Type} (suffix : primary.LeavesSuffix)
    (interpret : β → Predicate Id α) (tokens : List String) :
    ((∃ predicate, (read? primary tokens).map (predicate? interpret) = .ok predicate) ↔
      tokens = [] ∨ ∃ whole, IsReadingOf whole primary tokens) ∧
    (∀ whole other, Derives primary .disjunction tokens whole [] →
      Derives primary .disjunction tokens other [] → whole = other) ∧
    ∀ predicate, (read? primary tokens).map (predicate? interpret) = .ok predicate →
      (tokens = [] → ∀ subject, predicate.holds subject = true) ∧
      ∀ whole, Derives primary .disjunction tokens whole [] →
        ∀ subject, predicate.holds subject = whole.truth interpret subject := by
  have unique : ∀ whole other, Derives primary .disjunction tokens whole [] →
      Derives primary .disjunction tokens other [] → whole = other := by
    intro whole other derived again
    exact (Derives.unique .disjunction tokens _ _ _ _ derived again (by simp [Level.Ends])
      (by simp [Level.Ends])).1
  refine ⟨?_, unique, ?_⟩
  · constructor
    · rintro ⟨predicate, compiled⟩
      rcases (compiled_iff suffix).mp compiled with ⟨empty, _⟩ | ⟨whole, reading, _⟩
      · exact .inl empty
      · exact .inr ⟨whole, reading⟩
    · rintro (empty | ⟨whole, reading⟩)
      · exact ⟨.always true, (compiled_iff suffix).mpr (.inl ⟨empty, rfl⟩)⟩
      · exact ⟨_, (compiled_iff suffix).mpr (.inr ⟨whole, reading, rfl⟩)⟩
  · intro predicate compiled
    rcases (compiled_iff suffix).mp compiled with ⟨rfl, rfl⟩ | ⟨whole, reading, rfl⟩
    · constructor
      · intro _ subject
        exact Predicate.holds_always true
      · intro whole derived
        rcases derived.head with ⟨token, after, same, _⟩
        contradiction
    · constructor
      · intro empty
        exact absurd empty reading.ne_nil
      · intro other derived subject
        rw [unique other whole derived reading.derived, holds_predicate]

theorem recognizes_grammar_evenWord :
    Arithmetic.evenWord.LeavesSuffix ∧
      ∃ predicate, (read? Arithmetic.evenWord ["even", "-o", "!", "even"]).map (predicate? id) =
          .ok predicate ∧ ∀ value, predicate.holds value = true := by
  have suffix : Arithmetic.evenWord.LeavesSuffix := by
    intro tokens meaning rest answered
    unfold Arithmetic.evenWord Arithmetic.even at answered
    split at answered
    · simp only [Except.ok.injEq, Prod.mk.injEq] at answered
      rcases answered with ⟨_, rfl⟩
      exact List.suffix_cons "even" _
    · contradiction
  have word : ∀ rest, Derives Arithmetic.evenWord .operand ("even" :: rest)
      (.primary ["even"] (.atomic fun value => value % 2 == 0)) rest :=
    fun rest => @Derives.primary _ _ "even" [] rest _ (by decide) rfl
  have derived : Derives Arithmetic.evenWord .disjunction ["even", "-o", "!", "even"] _ [] :=
    .alternative (.conjunction (.operand (word _))) (by decide)
      (.operand (.negation (by decide) (word [])))
  rcases recognizes_grammar suffix id ["even", "-o", "!", "even"] with ⟨compiles, _, meaning⟩
  rcases compiles.mpr (.inr ⟨_, derived, by decide⟩) with ⟨predicate, compiled⟩
  refine ⟨suffix, predicate, compiled, ?_⟩
  intro value
  rw [(meaning predicate compiled).2 _ derived value]
  simp [truth]

end EntryTree.Expression
