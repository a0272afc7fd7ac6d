import EntryTree.Proofs.Expression.Failure
import EntryTree.Proofs.Predicate.Height
import Mathlib.Order.Bounds.Defs

/-!
# Limited nesting

The readers count how many negations and groups enclose the place where they are, and refuse to
enter one more when the limit is reached. This bounds the height of every predicate that is
compiled, however long the token list is, for within one negation or group there are two connectives
on top of one another at most: a chain of disjunctions over chains of conjunctions. And it says
where a token list that nests too deep is refused: at the leftmost negation or group that is
enclosed in as many others as are allowed.
-/

namespace EntryTree.Expression

open Predicate (heightOf)

variable {β : Type} {m : Type → Type} {α : Type} {primary : Primary β}
  {interpret : β → Predicate m α} {level : Level} {depth bound : Nat} {tokens rest : List String}
  {whole left right : Expression β}

/-! ## What readers build -/

/-- The trees that the readers of the levels build at a depth, out of meanings that the primary
brings. Which tokens they take is left open. -/
inductive Built (primary : Primary β) : Level → Nat → Expression β → Prop
  | primary {depth : Nat} {words tokens rest : List String} {meaning : β}
      (answered : primary tokens = .ok (meaning, rest)) :
      Built primary .operand depth (.primary words meaning)
  | negation {depth : Nat} {word : String} {operand : Expression β} (shallow : depth < nestingLimit)
      (inner : Built primary .operand (depth + 1) operand) :
      Built primary .operand depth (.negation word operand)
  | group {depth : Nat} {inner : Expression β} (shallow : depth < nestingLimit)
      (built : Built primary .disjunction (depth + 1) inner) :
      Built primary .operand depth (.group inner)
  | operand {depth : Nat} {whole : Expression β} (only : Built primary .operand depth whole) :
      Built primary .conjunction depth whole
  | beside {depth : Nat} {word : Option String} {left right : Expression β}
      (first : Built primary .conjunction depth left)
      (second : Built primary .operand depth right) :
      Built primary .conjunction depth (.conjunction left word right)
  | conjunction {depth : Nat} {whole : Expression β}
      (only : Built primary .conjunction depth whole) : Built primary .disjunction depth whole
  | alternative {depth : Nat} {word : String} {left right : Expression β}
      (first : Built primary .disjunction depth left)
      (second : Built primary .conjunction depth right) :
      Built primary .disjunction depth (.disjunction left word right)

/-- What the reader of a level answers for a token list is built, whatever tokens the primary
leaves. -/
def Level.Builds (level : Level) (primary : Primary β) (tokens : List String) : Prop :=
  ∀ depth whole rest, level.take primary depth tokens = .ok (whole, rest) →
    Built primary level depth whole

theorem builds_operand
    (shorter : ∀ after : List String, after.length < tokens.length →
      ∀ level : Level, level.Builds primary after) :
    Level.operand.Builds primary tokens := by
  intro depth whole rest taken
  rcases takeOperand_cases taken with
    ⟨word, after, operand, rfl, rfl, mark, shallow, answered⟩ |
    ⟨word, after, inner, closing, rfl, rfl, opens, closes, shallow, answered⟩ |
    ⟨word, after, rfl, mark, taken⟩
  · exact .negation shallow (shorter after (Nat.lt_succ_self _) .operand _ _ _ answered)
  · exact .group shallow (shorter after (Nat.lt_succ_self _) .disjunction _ _ _ answered)
  · rw [takePrimary_eq] at taken
    split at taken
    · contradiction
    next meaning remaining answered =>
      dsimp only at taken
      split at taken
      · rcases Prod.mk.inj (Except.ok.inj taken) with ⟨rfl, _⟩
        exact .primary answered
      · contradiction

section Extending

variable {limit : Nat}

theorem built_of_extendConjunction
    (operands : ∀ after : List String, after.length < limit → Level.operand.Builds primary after)
    (short : tokens.length < limit) (before : Built primary .conjunction depth left)
    (extended : extendConjunction primary depth left tokens = .ok (whole, rest)) :
    Built primary .conjunction depth whole := by
  induction tokens using (measure List.length).wf.induction generalizing left with
  | h tokens ih =>
      rcases extendConjunction_cases extended with
        ⟨rfl, rfl⟩ | ⟨word, after, right, middle, rfl, _, answered, extended⟩ |
        ⟨right, middle, answered, extended⟩
      · exact before
      · rw [List.length_cons] at short
        have less := length_lt_of_takeOperand answered
        have second := operands after (by omega) _ _ _ answered
        exact ih middle (Nat.lt_succ_of_lt less) (by omega) (before.beside second) extended
      · have less := length_lt_of_takeOperand answered
        have second := operands tokens short _ _ _ answered
        exact ih middle less (by omega) (before.beside second) extended

theorem built_of_extendDisjunction
    (conjunctions : ∀ after : List String, after.length < limit →
      Level.conjunction.Builds primary after)
    (short : tokens.length < limit) (before : Built primary .disjunction depth left)
    (extended : extendDisjunction primary depth left tokens = .ok (whole, rest)) :
    Built primary .disjunction depth whole := by
  induction tokens using (measure List.length).wf.induction generalizing left with
  | h tokens ih =>
      rcases extendDisjunction_cases extended with
        ⟨rfl, rfl⟩ | ⟨word, after, right, middle, rfl, _, answered, extended⟩
      · exact before
      · rw [List.length_cons] at short
        have less := length_lt_of_takeConjunction answered
        have second := conjunctions after (by omega) _ _ _ answered
        exact ih middle (Nat.lt_succ_of_lt less) (by omega) (before.alternative second) extended

end Extending

theorem builds (primary : Primary β) (level : Level) (tokens : List String) :
    level.Builds primary tokens := by
  induction level, tokens using Level.induction with
  | operand tokens shorter => exact builds_operand shorter
  | conjunction tokens shorter operand =>
      intro depth whole rest taken
      rcases takeConjunction_cases taken with ⟨first, middle, answered, extended⟩
      exact built_of_extendConjunction (fun after short => shorter after short .operand)
        (length_lt_of_takeOperand answered) (.operand (operand _ _ _ answered)) extended
  | disjunction tokens shorter conjunction =>
      intro depth whole rest taken
      rcases takeDisjunction_cases taken with ⟨first, middle, answered, extended⟩
      exact built_of_extendDisjunction (fun after short => shorter after short .conjunction)
        (length_lt_of_takeConjunction answered) (.conjunction (conjunction _ _ _ answered)) extended

/-! ## Heights -/

/-- How high the predicate of an expression is, by the level at which it stands: what it brings to a
chain at this level is no higher than operands may be, and disjunctions may be higher by one. -/
def Level.Low (interpret : β → Predicate m α) (bound : Nat) (whole : Expression β) : Level → Prop
  | .operand => (whole.predicate interpret).height ≤ bound
  | .conjunction => heightOf (whole.predicate interpret).conjuncts ≤ bound
  | .disjunction => heightOf (whole.predicate interpret).disjuncts ≤ bound + 1

theorem Level.Low.height_le (low : Level.disjunction.Low interpret bound whole) :
    (whole.predicate interpret).height ≤ bound + 2 :=
  Nat.le_trans (Predicate.height_le_disjuncts _) (Nat.succ_le_succ low)

/-- The room above the primaries shrinks by two with every negation or group around them. -/
theorem Built.low (built : Built primary level depth whole) (within : depth ≤ nestingLimit)
    (primaries : ∀ tokens meaning rest, primary tokens = .ok (meaning, rest) →
      (interpret meaning).height ≤ bound) :
    level.Low interpret (bound + 2 * (nestingLimit - depth)) whole := by
  induction built with
  | primary answered => exact Nat.le_add_right_of_le (primaries _ _ _ answered)
  | @negation depth word operand shallow inner ih =>
      have low := ih shallow
      simp only [Level.Low, predicate, Predicate.height] at low ⊢
      omega
  | @group depth inner shallow built ih =>
      have low := (ih shallow).height_le
      simp only [Level.Low, predicate]
      omega
  | operand only ih => exact Nat.le_trans (Predicate.heightOf_conjuncts_le _) (ih within)
  | beside first second ihFirst ihSecond =>
      have before := ihFirst within
      have behind := Nat.le_trans (Predicate.heightOf_conjuncts_le _) (ihSecond within)
      rw [Level.Low, predicate, Predicate.heightOf_conjuncts_and]
      exact Nat.max_le.mpr ⟨before, behind⟩
  | conjunction only ih =>
      exact Nat.le_trans (Predicate.heightOf_disjuncts_le _)
        (Nat.le_trans (Predicate.height_le_conjuncts _) (Nat.succ_le_succ (ih within)))
  | alternative first second ihFirst ihSecond =>
      have before := ihFirst within
      have behind := Nat.le_trans (Predicate.heightOf_disjuncts_le _)
        (Nat.le_trans (Predicate.height_le_conjuncts _) (Nat.succ_le_succ (ihSecond within)))
      rw [Level.Low, predicate, Predicate.heightOf_disjuncts_or]
      exact Nat.max_le.mpr ⟨before, behind⟩

theorem height_le_of_read
    (primaries : ∀ tokens meaning rest, primary tokens = .ok (meaning, rest) →
      (interpret meaning).height ≤ bound)
    (answered : read primary tokens = .ok whole) :
    (whole.predicate interpret).height ≤ bound + 2 * (nestingLimit + 1) := by
  rw [read_eq] at answered
  split at answered
  · contradiction
  next inner taken =>
    rcases Except.ok.inj answered with rfl
    have built := builds primary .disjunction tokens 0 _ _ taken
    exact (built.low (Nat.zero_le _) primaries).height_le
  · contradiction

/-! ## Where nesting goes too deep -/

/-- The token at `index` begins a negation or a group that stands within `outer` others. -/
inductive Nests : Expression β → Nat → Nat → Prop
  | negation {word : String} {operand : Expression β} : Nests (.negation word operand) 0 0
  | group {inner : Expression β} : Nests (.group inner) 0 0
  | negated {word : String} {operand : Expression β} {index outer : Nat}
      (within : Nests operand index outer) :
      Nests (.negation word operand) (index + 1) (outer + 1)
  | grouped {inner : Expression β} {index outer : Nat} (within : Nests inner index outer) :
      Nests (.group inner) (index + 1) (outer + 1)
  | conjunctionLeft {left right : Expression β} {word : Option String} {index outer : Nat}
      (within : Nests left index outer) : Nests (.conjunction left word right) index outer
  | conjunctionRight {left right : Expression β} {word : Option String} {index outer : Nat}
      (within : Nests right index outer) :
      Nests (.conjunction left word right)
        (index + (left.tokens.length + word.toList.length)) outer
  | disjunctionLeft {left right : Expression β} {word : String} {index outer : Nat}
      (within : Nests left index outer) : Nests (.disjunction left word right) index outer
  | disjunctionRight {left right : Expression β} {word : String} {index outer : Nat}
      (within : Nests right index outer) :
      Nests (.disjunction left word right) (index + (left.tokens.length + 1)) outer

theorem Nests.index_lt {index outer : Nat} (nests : Nests whole index outer) :
    index < whole.tokens.length := by
  induction nests <;> simp only [tokens, List.length_cons, List.length_append] <;> omega

theorem Nests.outer_lt {index outer : Nat} (nests : Nests whole index outer) :
    outer < whole.nesting := by
  induction nests <;> simp only [nesting] <;> omega

/-- The leftmost negation or group that stands within so many others begins at `index`. -/
def FirstBeyond (whole : Expression β) (outer index : Nat) : Prop :=
  IsLeast {index | ∃ others, outer ≤ others ∧ whole.Nests index others} index

namespace FirstBeyond

variable {outer index : Nat} {operand inner : Expression β}

theorem negation (word : String) (operand : Expression β) :
    FirstBeyond (.negation word operand) 0 0 :=
  ⟨⟨0, Nat.le_refl 0, .negation⟩, fun _ _ => Nat.zero_le _⟩

theorem group (inner : Expression β) : FirstBeyond (.group inner) 0 0 :=
  ⟨⟨0, Nat.le_refl 0, .group⟩, fun _ _ => Nat.zero_le _⟩

theorem negated (word : String) (first : operand.FirstBeyond outer index) :
    FirstBeyond (.negation word operand) (outer + 1) (index + 1) := by
  rcases first with ⟨⟨others, deep, nests⟩, least⟩
  refine ⟨⟨others + 1, Nat.succ_le_succ deep, .negated nests⟩, ?_⟩
  rintro other ⟨others, deep, nests⟩
  cases nests with
  | negation => contradiction
  | negated within => exact Nat.succ_le_succ (least ⟨_, Nat.le_of_succ_le_succ deep, within⟩)

theorem grouped (first : inner.FirstBeyond outer index) :
    FirstBeyond (.group inner) (outer + 1) (index + 1) := by
  rcases first with ⟨⟨others, deep, nests⟩, least⟩
  refine ⟨⟨others + 1, Nat.succ_le_succ deep, .grouped nests⟩, ?_⟩
  rintro other ⟨others, deep, nests⟩
  cases nests with
  | group => contradiction
  | grouped within => exact Nat.succ_le_succ (least ⟨_, Nat.le_of_succ_le_succ deep, within⟩)

theorem conjunctionLeft (word : Option String) (right : Expression β)
    (first : left.FirstBeyond outer index) :
    FirstBeyond (.conjunction left word right) outer index := by
  rcases first with ⟨⟨others, deep, nests⟩, least⟩
  refine ⟨⟨others, deep, .conjunctionLeft nests⟩, ?_⟩
  rintro other ⟨others, deep, within⟩
  cases within with
  | conjunctionLeft within => exact least ⟨_, deep, within⟩
  | conjunctionRight within =>
      have before := nests.index_lt
      omega

theorem disjunctionLeft (word : String) (right : Expression β)
    (first : left.FirstBeyond outer index) :
    FirstBeyond (.disjunction left word right) outer index := by
  rcases first with ⟨⟨others, deep, nests⟩, least⟩
  refine ⟨⟨others, deep, .disjunctionLeft nests⟩, ?_⟩
  rintro other ⟨others, deep, within⟩
  cases within with
  | disjunctionLeft within => exact least ⟨_, deep, within⟩
  | disjunctionRight within =>
      have before := nests.index_lt
      omega

theorem conjunctionRight (word : Option String) (shallow : left.nesting ≤ outer)
    (first : right.FirstBeyond outer index) :
    FirstBeyond (.conjunction left word right) outer
      (index + (left.tokens.length + word.toList.length)) := by
  rcases first with ⟨⟨others, deep, nests⟩, least⟩
  refine ⟨⟨others, deep, .conjunctionRight nests⟩, ?_⟩
  rintro other ⟨others, deep, within⟩
  cases within with
  | conjunctionLeft within =>
      have inside := within.outer_lt
      omega
  | conjunctionRight within => exact Nat.add_le_add_right (least ⟨_, deep, within⟩) _

theorem disjunctionRight (word : String) (shallow : left.nesting ≤ outer)
    (first : right.FirstBeyond outer index) :
    FirstBeyond (.disjunction left word right) outer (index + (left.tokens.length + 1)) := by
  rcases first with ⟨⟨others, deep, nests⟩, least⟩
  refine ⟨⟨others, deep, .disjunctionRight nests⟩, ?_⟩
  rintro other ⟨others, deep, within⟩
  cases within with
  | disjunctionLeft within =>
      have inside := within.outer_lt
      omega
  | disjunctionRight within => exact Nat.add_le_add_right (least ⟨_, deep, within⟩) _

end FirstBeyond

/-- The error for a negation or a group that is one too many, at the token that begins it. -/
def tooDeepAt (index : Nat) : ParseError :=
  (Misplacement.tooDeep nestingLimit).error.atToken index

/-- What is too deep within a place is too deep in a place from which it is entered, further behind
by the tokens in front of it. -/
theorem Enters.tooDeepAt {place inner : Place} {index offset : Nat}
    (enters : Enters primary place inner)
    (failed : inner.reading primary = .error (tooDeepAt index))
    (length : place.tokens.length = inner.tokens.length + offset) :
    place.reading primary = .error (Expression.tooDeepAt (index + offset)) := by
  rw [enters.reading_error failed, Place.offset, length, Nat.add_sub_cancel_left]
  rfl

/-- A derivation that nests too deep below the depth where it begins is refused at the leftmost
negation or group that is one too many. All that stands before it is read as it is derived. -/
theorem Derives.refused (derived : Derives primary level tokens whole rest)
    (within : depth ≤ nestingLimit) (deep : nestingLimit < depth + whole.nesting) :
    ∃ index, whole.FirstBeyond (nestingLimit - depth) index ∧
      Place.reading ⟨level, depth, tokens⟩ primary = .error (tooDeepAt index) := by
  induction derived generalizing depth with
  | primary free answered =>
      rw [nesting] at deep
      omega
  | @negation word tokens rest operand negates derived ih =>
      rw [nesting] at deep
      rcases Nat.lt_or_eq_of_le within with shallow | rfl
      · rcases ih shallow (by omega) with ⟨index, first, failed⟩
        have room : nestingLimit - depth = nestingLimit - (depth + 1) + 1 := by omega
        refine ⟨index + 1, room ▸ first.negated word, ?_⟩
        exact (Enters.negation negates derived.startsOperand shallow).tooDeepAt failed rfl
      · refine ⟨0, Nat.sub_self _ ▸ .negation word operand, ?_⟩
        have starts : ¬(!Expression.startsOperand tokens) = true := by simp [derived.startsOperand]
        rw [Place.reading, Level.take, takeOperand_negation (Mark.ofToken?_eq_negation.mpr negates),
          if_neg starts, if_pos (Nat.le_refl _)]
        rfl
  | @group tokens rest inner derived ih =>
      rw [nesting] at deep
      have filled : tokens.head? ≠ some ")" := by
        rcases derived.head with ⟨token, after, rfl, free⟩
        simp only [List.head?_cons, ne_eq, Option.some.injEq]
        rintro rfl
        simp at free
      rcases Nat.lt_or_eq_of_le within with shallow | rfl
      · rcases ih shallow (by omega) with ⟨index, first, failed⟩
        have room : nestingLimit - depth = nestingLimit - (depth + 1) + 1 := by omega
        refine ⟨index + 1, room ▸ first.grouped, ?_⟩
        exact (Enters.group filled shallow).tooDeepAt failed rfl
      · refine ⟨0, Nat.sub_self _ ▸ .group inner, ?_⟩
        have nonempty : tokens.head?.bind Mark.ofToken? ≠ some .closing := by
          intro closes
          rcases Option.bind_eq_some_iff.mp closes with ⟨token, head, mark⟩
          exact filled (Mark.ofToken?_eq_closing.mp mark ▸ head)
        rw [Place.reading, Level.take, takeOperand_opening (Mark.ofToken?_eq_opening.mpr rfl),
          if_neg nonempty, if_pos (Nat.le_refl _)]
        rfl
  | operand derived ih =>
      rcases ih within deep with ⟨index, first, failed⟩
      exact ⟨index, first, Enters.operand.tooDeepAt failed (Nat.add_zero _).symm⟩
  | @joined word tokens middle rest left right before joins second ihFirst ihSecond =>
      rw [nesting] at deep
      by_cases fits : depth + left.nesting ≤ nestingLimit
      · rcases ihSecond within (by omega) with ⟨index, first, failed⟩
        refine ⟨_, first.conjunctionRight (some word) (by omega), ?_⟩
        refine (Enters.joined ⟨before, fits⟩ joins second.startsOperand).tooDeepAt failed ?_
        simp only [before.tokens_eq, List.length_append, List.length_cons, Option.toList_some,
          List.length_nil]
        omega
      · rcases ihFirst within (Nat.not_le.mp fits) with ⟨index, first, failed⟩
        exact ⟨index, first.conjunctionLeft (some word) right, failed⟩
  | @adjacent tokens middle rest left right before second ihFirst ihSecond =>
      rw [nesting] at deep
      by_cases fits : depth + left.nesting ≤ nestingLimit
      · rcases ihSecond within (by omega) with ⟨index, first, failed⟩
        refine ⟨_, first.conjunctionRight none (by omega), ?_⟩
        refine (Enters.adjacent ⟨before, fits⟩ second.startsOperand).tooDeepAt failed ?_
        simp only [before.tokens_eq, List.length_append, Option.toList_none, List.length_nil]
        omega
      · rcases ihFirst within (Nat.not_le.mp fits) with ⟨index, first, failed⟩
        exact ⟨index, first.conjunctionLeft none right, failed⟩
  | conjunction derived ih =>
      rcases ih within deep with ⟨index, first, failed⟩
      exact ⟨index, first, Enters.conjunction.tooDeepAt failed (Nat.add_zero _).symm⟩
  | @alternative word tokens middle rest left right before joins second ihFirst ihSecond =>
      rw [nesting] at deep
      by_cases fits : depth + left.nesting ≤ nestingLimit
      · rcases ihSecond within (by omega) with ⟨index, first, failed⟩
        refine ⟨_, first.disjunctionRight word (by omega), ?_⟩
        refine (Enters.alternative ⟨before, fits⟩ joins second.startsOperand).tooDeepAt failed ?_
        simp only [before.tokens_eq, List.length_append, List.length_cons]
        omega
      · rcases ihFirst within (Nat.not_le.mp fits) with ⟨index, first, failed⟩
        exact ⟨index, first.disjunctionLeft word right, failed⟩

/-! ## Whole token lists -/

/-- A compiled predicate is higher than its primaries by two connectives for every level of nesting
that is allowed, and for the outermost level, at most. And a token list that would be an expression
if it did not nest too deep is refused, as malformed, at the leftmost negation or group that stands
within as many others as are allowed. -/
theorem nesting_limited [Monad m] (primary : Primary β) (interpret : β → Predicate m α) :
    (∀ bound,
      (∀ tokens meaning rest, primary tokens = .ok (meaning, rest) →
        (interpret meaning).height ≤ bound) →
      ∀ tokens predicate, (read? primary tokens).map (predicate? interpret) = .ok predicate →
        predicate.height ≤ bound + 2 * (nestingLimit + 1)) ∧
    ∀ tokens whole, Derives primary .disjunction tokens whole [] → nestingLimit < whole.nesting →
      ∃ error, (read? primary tokens).map (predicate? interpret) = .error (.failure error) ∧
        error.kind = .malformed ∧
        IsLeast {index | ∃ others, nestingLimit ≤ others ∧ whole.Nests index others}
          error.position := by
  constructor
  · intro bound primaries tokens predicate compiled
    rcases map_eq_ok.mp compiled with ⟨expression, taken, rfl⟩
    unfold read? at taken
    split at taken
    · rcases Except.ok.inj taken with rfl
      exact Nat.zero_le _
    · rcases map_eq_ok.mp taken with ⟨whole, answered, rfl⟩
      exact height_le_of_read primaries answered
  · intro tokens whole derived deep
    rcases derived.refused (Nat.zero_le _) (by omega) with ⟨index, first, failed⟩
    have taken : takeDisjunction primary 0 tokens = .error (tooDeepAt index) := failed
    refine ⟨tooDeepAt index, ?_, rfl, first⟩
    rcases derived.head with ⟨token, after, rfl, _⟩
    rw [read?, read_eq, taken]
    rfl

/-- The word `even` behind so many negations. -/
def underNegations : Nat → Expression Arithmetic.Test
  | 0 => .primary ["even"] (.atomic fun value => value % 2 == 0)
  | count + 1 => .negation "!" (underNegations count)

theorem derives_underNegations (count : Nat) :
    Derives Arithmetic.evenWord .operand (List.replicate count "!" ++ ["even"])
      (underNegations count) [] := by
  induction count with
  | zero => exact @Derives.primary _ _ "even" [] [] _ (by decide) rfl
  | succ count ih => exact .negation (by decide) ih

theorem nesting_underNegations (count : Nat) : (underNegations count).nesting = count := by
  induction count with
  | zero => rfl
  | succ count ih => rw [underNegations, nesting, ih]

theorem nests_underNegations {count index others : Nat} :
    (underNegations count).Nests index others ↔ index = others ∧ others < count := by
  induction count generalizing index others with
  | zero =>
      constructor
      · rintro ⟨⟩
      · rintro ⟨_, ⟨⟩⟩
  | succ count ih =>
      constructor
      · rintro (_ | _ | within | within)
        · exact ⟨rfl, Nat.succ_pos count⟩
        · rcases ih.mp within with ⟨rfl, inside⟩
          exact ⟨rfl, Nat.succ_lt_succ inside⟩
      · rintro ⟨rfl, inside⟩
        cases index with
        | zero => exact .negation
        | succ index => exact .negated (ih.mpr ⟨rfl, Nat.lt_of_succ_lt_succ inside⟩)

/-- One negation too many is the one behind all that are allowed. -/
theorem nesting_limited_negations :
    (∀ tokens meaning rest, Arithmetic.evenWord tokens = .ok (meaning, rest) →
      meaning.height ≤ 0) ∧
    (∃ predicate, (read? Arithmetic.evenWord (List.replicate 256 "!" ++ ["even"])).map
        (predicate? id) = .ok predicate ∧ predicate.height ≤ 0 + 2 * (nestingLimit + 1)) ∧
    Derives Arithmetic.evenWord .disjunction (List.replicate 257 "!" ++ ["even"])
      (underNegations 257) [] ∧
    nestingLimit < (underNegations 257).nesting ∧
    ∃ error, (read? Arithmetic.evenWord (List.replicate 257 "!" ++ ["even"])).map
        (predicate? id) = .error (.failure error) ∧ error.kind = .malformed ∧
          error.position = 256 := by
  have tests : ∀ tokens meaning rest, Arithmetic.evenWord tokens = .ok (meaning, rest) →
      (id meaning).height ≤ 0 := by
    intro tokens meaning rest answered
    unfold Arithmetic.evenWord Arithmetic.even at answered
    split at answered
    · rcases Prod.mk.inj (Except.ok.inj answered) with ⟨rfl, _⟩
      exact Nat.le_refl 0
    · contradiction
  have derived : ∀ count, Derives Arithmetic.evenWord .disjunction
      (List.replicate count "!" ++ ["even"]) (underNegations count) [] := fun count =>
    .conjunction (.operand (derives_underNegations count))
  have deep : nestingLimit < (underNegations 257).nesting := by
    rw [nesting_underNegations, nestingLimit]
    omega
  rcases nesting_limited Arithmetic.evenWord id with ⟨low, refused⟩
  refine ⟨tests, ?_, derived 257, deep, ?_⟩
  · have taken : takeDisjunction Arithmetic.evenWord 0 (List.replicate 256 "!" ++ ["even"]) =
        .ok (underNegations 256, []) := by
      have fits : 0 + (underNegations 256).nesting = nestingLimit :=
        (Nat.zero_add _).trans (nesting_underNegations 256)
      exact takeDisjunction_of_ends
        ((derived 256).resumes 0 (Nat.le_of_eq fits) (by simp [Level.Ends]))
        (by simp [Level.Ends])
    have compiled : (read? Arithmetic.evenWord (List.replicate 256 "!" ++ ["even"])).map
        (predicate? id) = .ok ((underNegations 256).predicate id) := by
      rw [read?, read_eq, taken]
      rfl
    exact ⟨_, compiled, low 0 tests _ _ compiled⟩
  · rcases refused _ _ (derived 257) deep with ⟨error, compiled, malformed, first⟩
    refine ⟨error, compiled, malformed, ?_⟩
    rcases first with ⟨⟨others, within, nests⟩, least⟩
    have last : (underNegations 257).Nests 256 256 := nests_underNegations.mpr ⟨rfl, by omega⟩
    have before := least ⟨256, Nat.le_refl _, last⟩
    rcases nests_underNegations.mp nests with ⟨same, _⟩
    rw [nestingLimit] at within
    omega

end EntryTree.Expression
