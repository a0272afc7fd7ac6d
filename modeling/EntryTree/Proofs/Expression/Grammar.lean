import EntryTree.Proofs.Expression.Reading
import EntryTree.Proofs.Predicate.Evaluation

/-!
# The grammar of expressions

Which token lists are expressions, and with which trees, is said here by derivations. A primary sees
all tokens that are left and not only those it takes, so a derivation relates a token list to a tree
and to the tokens that follow it. There is never more than one derivation of a whole list.
-/

namespace EntryTree.Expression

variable {β : Type} {primary : Primary β} {depth : Nat} {tokens rest : List String}
  {whole : Expression β}

/-- The levels of the grammar, from the tightest to the loosest. -/
inductive Level
  | operand
  | conjunction
  | disjunction

/-- Induction over the levels and over the number of tokens: within an operand every level may begin
again, but with fewer tokens, and a looser level begins with a tighter one. -/
theorem Level.induction {motive : Level → List String → Prop}
    (operand : ∀ tokens : List String,
      (∀ after : List String, after.length < tokens.length → ∀ level, motive level after) →
        motive .operand tokens)
    (conjunction : ∀ tokens : List String,
      (∀ after : List String, after.length < tokens.length → ∀ level, motive level after) →
        motive .operand tokens → motive .conjunction tokens)
    (disjunction : ∀ tokens : List String,
      (∀ after : List String, after.length < tokens.length → ∀ level, motive level after) →
        motive .conjunction tokens → motive .disjunction tokens)
    (level : Level) (tokens : List String) : motive level tokens := by
  induction tokens using (measure List.length).wf.induction generalizing level with
  | h tokens shorter =>
      have tight := operand tokens shorter
      have looser := conjunction tokens shorter tight
      cases level with
      | operand => exact tight
      | conjunction => exact looser
      | disjunction => exact disjunction tokens shorter looser

/-- The tokens up to `rest` are an expression of some level. -/
inductive Derives (primary : Primary β) : Level → List String → Expression β → List String → Prop
  /-- A primary takes at least one token, and none of the words of the language comes first. -/
  | primary {word : String} {words rest : List String} {meaning : β} (free : word ∉ Mark.words)
      (answered : primary (word :: (words ++ rest)) = .ok (meaning, rest)) :
      Derives primary .operand (word :: (words ++ rest)) (.primary (word :: words) meaning) rest
  | negation {word : String} {tokens rest : List String} {operand : Expression β}
      (negates : word ∈ ["!", "-not"]) (derived : Derives primary .operand tokens operand rest) :
      Derives primary .operand (word :: tokens) (.negation word operand) rest
  | group {tokens rest : List String} {inner : Expression β}
      (derived : Derives primary .disjunction tokens inner (")" :: rest)) :
      Derives primary .operand ("(" :: tokens) (.group inner) rest
  | operand {tokens rest : List String} {whole : Expression β}
      (derived : Derives primary .operand tokens whole rest) :
      Derives primary .conjunction tokens whole rest
  | joined {word : String} {tokens middle rest : List String} {left right : Expression β}
      (first : Derives primary .conjunction tokens left (word :: middle))
      (joins : word ∈ ["-a", "-and"]) (second : Derives primary .operand middle right rest) :
      Derives primary .conjunction tokens (.conjunction left (some word) right) rest
  | adjacent {tokens middle rest : List String} {left right : Expression β}
      (first : Derives primary .conjunction tokens left middle)
      (second : Derives primary .operand middle right rest) :
      Derives primary .conjunction tokens (.conjunction left none right) rest
  | conjunction {tokens rest : List String} {whole : Expression β}
      (derived : Derives primary .conjunction tokens whole rest) :
      Derives primary .disjunction tokens whole rest
  | alternative {word : String} {tokens middle rest : List String} {left right : Expression β}
      (first : Derives primary .disjunction tokens left (word :: middle))
      (joins : word ∈ ["-o", "-or"]) (second : Derives primary .conjunction middle right rest) :
      Derives primary .disjunction tokens (.disjunction left word right) rest

/-- How many negations and groups enclose one another at most. -/
def nesting : Expression β → Nat
  | .primary _ _ => 0
  | .negation _ operand => operand.nesting + 1
  | .group inner => inner.nesting + 1
  | .conjunction left _ right => max left.nesting right.nesting
  | .disjunction left _ right => max left.nesting right.nesting

/-- The truth value of an expression at a subject. -/
def truth {α : Type} (interpret : β → Predicate Id α) (subject : α) : Expression β → Bool
  | .primary _ meaning => (interpret meaning).holds subject
  | .negation _ operand => !operand.truth interpret subject
  | .group inner => inner.truth interpret subject
  | .conjunction left _ right => left.truth interpret subject && right.truth interpret subject
  | .disjunction left _ right => left.truth interpret subject || right.truth interpret subject

theorem holds_predicate {α : Type} (interpret : β → Predicate Id α) (subject : α)
    (whole : Expression β) :
    (whole.predicate interpret).holds subject = whole.truth interpret subject := by
  induction whole with
  | primary words meaning => rfl
  | negation word operand ih => simp [predicate, truth, ih]
  | group inner ih => simp [predicate, truth, ih]
  | conjunction left word right ihLeft ihRight => simp [predicate, truth, ihLeft, ihRight]
  | disjunction left word right ihLeft ihRight => simp [predicate, truth, ihLeft, ihRight]

/-- The truth value depends on the subject and on the meanings only as far as the primaries do. -/
theorem truth_congr {α α' : Type} {interpret : β → Predicate Id α}
    {interpret' : β → Predicate Id α'} {subject : α} {subject' : α'}
    (same : ∀ meaning ∈ whole.meanings,
      (interpret meaning).holds subject = (interpret' meaning).holds subject') :
    whole.truth interpret subject = whole.truth interpret' subject' := by
  induction whole with
  | primary words meaning => exact same meaning (List.mem_singleton.mpr rfl)
  | negation word operand ih => simp only [truth, ih same]
  | group inner ih => exact ih same
  | conjunction left word right ihLeft ihRight =>
      rw [meanings, List.forall_mem_append] at same
      simp only [truth, ihLeft same.1, ihRight same.2]
  | disjunction left word right ihLeft ihRight =>
      rw [meanings, List.forall_mem_append] at same
      simp only [truth, ihLeft same.1, ihRight same.2]

/-! ## Derivations -/

namespace Derives

variable {level : Level}

/-- A derivation accounts for every token, in order. -/
theorem tokens_eq (derived : Derives primary level tokens whole rest) :
    tokens = whole.tokens ++ rest := by
  induction derived with
  | primary free answered => rfl
  | negation negates derived ih => simp [Expression.tokens, ih]
  | group derived ih => simp [Expression.tokens, ih]
  | operand derived ih => exact ih
  | joined first joins second ihFirst ihSecond => simp [Expression.tokens, ihFirst, ihSecond]
  | adjacent first second ihFirst ihSecond => simp [Expression.tokens, ihFirst, ihSecond]
  | conjunction derived ih => exact ih
  | alternative first joins second ihFirst ihSecond => simp [Expression.tokens, ihFirst, ihSecond]

theorem length_lt (derived : Derives primary level tokens whole rest) :
    rest.length < tokens.length := by
  induction derived with
  | primary free answered => simp only [List.length_cons, List.length_append]; omega
  | negation negates derived ih => rw [List.length_cons]; omega
  | group derived ih => rw [List.length_cons] at *; omega
  | operand derived ih => exact ih
  | joined first joins second ihFirst ihSecond => rw [List.length_cons] at ihFirst; omega
  | adjacent first second ihFirst ihSecond => omega
  | conjunction derived ih => exact ih
  | alternative first joins second ihFirst ihSecond => rw [List.length_cons] at ihFirst; omega

/-- What is derived begins with a token that may begin an operand. -/
theorem startsOperand (derived : Derives primary level tokens whole rest) :
    startsOperand tokens = true := by
  induction derived with
  | primary free answered => simp [Expression.startsOperand, Mark.ofToken?_eq_none.mpr free]
  | negation negates derived ih =>
      simp [Expression.startsOperand, Mark.ofToken?_eq_negation.mpr negates]
  | group derived ih => simp [Expression.startsOperand, Mark.ofToken?_eq_opening.mpr rfl]
  | operand derived ih => exact ih
  | joined first joins second ihFirst ihSecond => exact ihFirst
  | adjacent first second ihFirst ihSecond => exact ihFirst
  | conjunction derived ih => exact ih
  | alternative first joins second ihFirst ihSecond => exact ihFirst

end Derives

/-! ## Uniqueness -/

/-- What may follow an expression of a level when it is followed by as much as it can take. -/
def Level.Ends : Level → List String → Prop
  | .operand, _ => True
  | .conjunction, rest => ∀ token ∈ rest.head?, token ∈ [")", "-o", "-or"]
  | .disjunction, rest => ∀ token ∈ rest.head?, token = ")"

/-- What joins the first operand of a conjunction or a disjunction with the further ones, from left
to right. -/
inductive Chain (primary : Primary β) :
    Level → Expression β → List String → Expression β → List String → Prop
  | done {level : Level} {whole : Expression β} {rest : List String} :
      Chain primary level whole rest whole rest
  | joined {word : String} {middle after rest : List String} {left right whole : Expression β}
      (joins : word ∈ ["-a", "-and"]) (second : Derives primary .operand middle right after)
      (others : Chain primary .conjunction (.conjunction left (some word) right) after whole rest) :
      Chain primary .conjunction left (word :: middle) whole rest
  | adjacent {middle after rest : List String} {left right whole : Expression β}
      (second : Derives primary .operand middle right after)
      (others : Chain primary .conjunction (.conjunction left none right) after whole rest) :
      Chain primary .conjunction left middle whole rest
  | alternative {word : String} {middle after rest : List String} {left right whole : Expression β}
      (joins : word ∈ ["-o", "-or"]) (second : Derives primary .conjunction middle right after)
      (others : Chain primary .disjunction (.disjunction left word right) after whole rest) :
      Chain primary .disjunction left (word :: middle) whole rest

theorem Chain.trans {level : Level} {left middle : Expression β} {after : List String}
    (first : Chain primary level left tokens middle after)
    (second : Chain primary level middle after whole rest) :
    Chain primary level left tokens whole rest := by
  induction first with
  | done => exact second
  | joined joins derived others ih => exact .joined joins derived (ih second)
  | adjacent derived others ih => exact .adjacent derived (ih second)
  | alternative joins derived others ih => exact .alternative joins derived (ih second)

namespace Derives

variable {level : Level}

theorem of_free {word : String} {after : List String} (free : word ∉ Mark.words)
    (derived : Derives primary .operand (word :: after) whole rest) :
    ∃ words meaning, after = words ++ rest ∧ primary (word :: after) = .ok (meaning, rest) ∧
      whole = .primary (word :: words) meaning := by
  cases derived with
  | @primary _ words _ meaning _ answered => exact ⟨words, meaning, rfl, answered, rfl⟩
  | negation negates derived =>
      simp only [Mark.words] at free
      grind
  | group derived => simp [Mark.words] at free

theorem of_negates {word : String} {after : List String} (negates : word ∈ ["!", "-not"])
    (derived : Derives primary .operand (word :: after) whole rest) :
    ∃ operand, Derives primary .operand after operand rest ∧ whole = .negation word operand := by
  cases derived with
  | primary free answered =>
      simp only [Mark.words] at free
      grind
  | @negation _ _ _ operand _ derived => exact ⟨operand, derived, rfl⟩
  | group derived => simp at negates

theorem of_opening {after : List String}
    (derived : Derives primary .operand ("(" :: after) whole rest) :
    ∃ inner, Derives primary .disjunction after inner (")" :: rest) ∧ whole = .group inner := by
  cases derived with
  | primary free answered => simp [Mark.words] at free
  | negation negates derived => simp at negates
  | @group _ _ inner derived => exact ⟨inner, derived, rfl⟩

/-- A conjunction is an operand with a chain of further ones. -/
theorem conjunction_cases (derived : Derives primary .conjunction tokens whole rest) :
    ∃ first middle, Derives primary .operand tokens first middle ∧
      Chain primary .conjunction first middle whole rest := by
  generalize level : Level.conjunction = other at derived
  induction derived with
  | primary | negation | group | conjunction | alternative => contradiction
  | @operand tokens rest whole derived ih => exact ⟨whole, rest, derived, .done⟩
  | joined before joins second ihBefore ihSecond =>
      rcases ihBefore level with ⟨first, middle, derived, chain⟩
      exact ⟨first, middle, derived, chain.trans (.joined joins second .done)⟩
  | adjacent before second ihBefore ihSecond =>
      rcases ihBefore level with ⟨first, middle, derived, chain⟩
      exact ⟨first, middle, derived, chain.trans (.adjacent second .done)⟩

/-- A disjunction is a conjunction with a chain of further ones. -/
theorem disjunction_cases (derived : Derives primary .disjunction tokens whole rest) :
    ∃ first middle, Derives primary .conjunction tokens first middle ∧
      Chain primary .disjunction first middle whole rest := by
  generalize level : Level.disjunction = other at derived
  induction derived with
  | primary | negation | group | operand | joined | adjacent => contradiction
  | @conjunction tokens rest whole derived ih => exact ⟨whole, rest, derived, .done⟩
  | alternative before joins second ihBefore ihSecond =>
      rcases ihBefore level with ⟨first, middle, derived, chain⟩
      exact ⟨first, middle, derived, chain.trans (.alternative joins second .done)⟩

/-- What is derived begins with a token, and that token neither closes nor joins. -/
theorem head (derived : Derives primary level tokens whole rest) :
    ∃ token after, tokens = token :: after ∧ token ∉ [")", "-o", "-or", "-a", "-and"] := by
  have starts := derived.startsOperand
  cases tokens with
  | nil => contradiction
  | cons token after =>
      refine ⟨token, after, rfl, ?_⟩
      have closing := @Mark.ofToken?_eq_closing token
      have disjunction := @Mark.ofToken?_eq_disjunction token
      have conjunction := @Mark.ofToken?_eq_conjunction token
      unfold Expression.startsOperand at starts
      grind

theorem not_ends (derived : Derives primary level tokens whole rest) :
    ¬Level.conjunction.Ends tokens := by
  rcases derived.head with ⟨token, after, rfl, free⟩
  intro ends
  have ending := ends token rfl
  grind

end Derives

/-- In a disjunction, every conjunction takes as much as it can. -/
theorem Chain.ends {left : Expression β} (chain : Chain primary .disjunction left tokens whole rest)
    (ends : Level.disjunction.Ends rest) : Level.conjunction.Ends tokens := by
  intro token member
  cases chain with
  | done => simp [ends token member]
  | alternative joins second others =>
      rcases Option.some.inj member with rfl
      grind

/-- There is one way to take as much of a token list as a level can take. -/
def Level.Unique (level : Level) (primary : Primary β) (tokens : List String) : Prop :=
  ∀ whole rest other remaining,
    Derives primary level tokens whole rest → Derives primary level tokens other remaining →
    level.Ends rest → level.Ends remaining → whole = other ∧ rest = remaining

theorem unique_operand
    (shorter : ∀ after : List String, after.length < tokens.length →
      ∀ level : Level, level.Unique primary after) :
    Level.operand.Unique primary tokens := by
  intro whole rest other remaining derived again _ _
  cases derived with
  | @primary word words rest meaning free answered =>
      rcases again.of_free free with ⟨words', meaning', same, answered', rfl⟩
      rw [answered] at answered'
      simp only [Except.ok.injEq, Prod.mk.injEq] at answered'
      rcases answered' with ⟨rfl, rfl⟩
      rcases List.append_cancel_right same with rfl
      exact ⟨rfl, rfl⟩
  | @negation word after rest operand negates derived =>
      rcases again.of_negates negates with ⟨operand', derived', rfl⟩
      rcases shorter after (Nat.lt_succ_self _) .operand _ _ _ _ derived derived' trivial
        trivial with ⟨rfl, rfl⟩
      exact ⟨rfl, rfl⟩
  | @group after rest inner derived =>
      rcases again.of_opening with ⟨inner', derived', rfl⟩
      have closes : ∀ rest, Level.disjunction.Ends (")" :: rest) := by simp [Level.Ends]
      rcases shorter after (Nat.lt_succ_self _) .disjunction _ _ _ _ derived derived'
          (closes rest) (closes remaining) with ⟨rfl, same⟩
      exact ⟨rfl, (List.cons.inj same).2⟩

theorem Chain.unique {level : Level} {bound : Nat} {left other : Expression β}
    {remaining : List String}
    (shorter : ∀ after : List String, after.length < bound →
      Level.operand.Unique primary after ∧ Level.conjunction.Unique primary after)
    (short : tokens.length < bound)
    (chain : Chain primary level left tokens whole rest)
    (again : Chain primary level left tokens other remaining)
    (ends : level.Ends rest) (endsAgain : level.Ends remaining) :
    whole = other ∧ rest = remaining := by
  induction chain generalizing other remaining with
  | @done level whole rest =>
      cases again with
      | done => exact ⟨rfl, rfl⟩
      | joined joins second others =>
          have ending := ends _ rfl
          grind
      | adjacent second others => exact absurd ends second.not_ends
      | alternative joins second others =>
          have ending := ends _ rfl
          grind
  | @joined word middle after rest left right whole joins second others ih =>
      rw [List.length_cons] at short
      cases again with
      | done =>
          have ending := endsAgain _ rfl
          grind
      | @joined _ _ after' _ _ right' _ joins' second' others' =>
          rcases (shorter middle (by omega)).1 _ _ _ _ second second' trivial trivial with
            ⟨rfl, rfl⟩
          have less := second.length_lt
          exact ih (by omega) others' ends endsAgain
      | adjacent second' others' =>
          rcases second'.head with ⟨token, after, same, free⟩
          grind
  | @adjacent middle after rest left right whole second others ih =>
      cases again with
      | done => exact absurd endsAgain second.not_ends
      | joined joins' second' others' =>
          rcases second.head with ⟨token, after, same, free⟩
          grind
      | adjacent second' others' =>
          rcases (shorter middle short).1 _ _ _ _ second second' trivial trivial with ⟨rfl, rfl⟩
          have less := second.length_lt
          exact ih (by omega) others' ends endsAgain
  | @alternative word middle after rest left right whole joins second others ih =>
      rw [List.length_cons] at short
      cases again with
      | done =>
          have ending := endsAgain _ rfl
          grind
      | alternative joins' second' others' =>
          rcases (shorter middle (by omega)).2 _ _ _ _ second second'
              (others.ends ends) (others'.ends endsAgain) with ⟨rfl, rfl⟩
          have less := second.length_lt
          exact ih (by omega) others' ends endsAgain

/-- A token list has one derivation at most, however deep it nests. -/
theorem Derives.unique (level : Level) (tokens : List String) : level.Unique primary tokens := by
  induction level, tokens using Level.induction with
  | operand tokens shorter => exact unique_operand shorter
  | conjunction tokens shorter operand =>
      intro whole rest other remaining derived again ends endsAgain
      rcases derived.conjunction_cases with ⟨first, middle, derived, chain⟩
      rcases again.conjunction_cases with ⟨first', middle', derived', chain'⟩
      rcases operand _ _ _ _ derived derived' trivial trivial with ⟨rfl, rfl⟩
      apply chain.unique _ derived.length_lt chain' ends endsAgain
      intro after short
      exact ⟨shorter after short .operand, shorter after short .conjunction⟩
  | disjunction tokens shorter conjunction =>
      intro whole rest other remaining derived again ends endsAgain
      rcases derived.disjunction_cases with ⟨first, middle, derived, chain⟩
      rcases again.disjunction_cases with ⟨first', middle', derived', chain'⟩
      rcases conjunction _ _ _ _ derived derived' (chain.ends ends)
          (chain'.ends endsAgain) with ⟨rfl, rfl⟩
      apply chain.unique _ derived.length_lt chain' ends endsAgain
      intro after short
      exact ⟨shorter after short .operand, shorter after short .conjunction⟩

end EntryTree.Expression
