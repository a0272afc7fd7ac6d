import EntryTree.Expression.Reader

/-!
# Readings

The readers of an expression answer with a proof that they leave fewer tokens than they were given.
Here their answers are taken without it, as an expression and the tokens left, and every reader gets
one equation for each kind of token it may find. What is proved of the readers rests on these
equations, and the readers themselves are not opened again.
-/

namespace EntryTree

namespace Mark

variable {token : String}

theorem ofToken?_eq_negation : ofToken? token = some .negation ↔ token ∈ ["!", "-not"] := by
  unfold ofToken?
  grind

theorem ofToken?_eq_opening : ofToken? token = some .opening ↔ token = "(" := by
  unfold ofToken?
  grind

theorem ofToken?_eq_closing : ofToken? token = some .closing ↔ token = ")" := by
  unfold ofToken?
  grind

theorem ofToken?_eq_disjunction : ofToken? token = some .disjunction ↔ token ∈ ["-o", "-or"] := by
  unfold ofToken?
  grind

theorem ofToken?_eq_conjunction : ofToken? token = some .conjunction ↔ token ∈ ["-a", "-and"] := by
  unfold ofToken?
  grind

/-- The words that belong to the expression language itself. -/
def words : List String :=
  ["!", "-not", "(", ")", "-o", "-or", "-a", "-and"]

theorem ofToken?_eq_none : ofToken? token = none ↔ token ∉ words := by
  simp only [ofToken?, words, List.mem_cons, List.not_mem_nil]
  grind

end Mark

/-- The primary leaves the tokens it does not take as they are. -/
def Primary.LeavesSuffix {β : Type} (primary : Primary β) : Prop :=
  ∀ tokens meaning rest, primary tokens = .ok (meaning, rest) → rest <:+ tokens

namespace Expression

variable {β : Type} {primary : Primary β} {depth : Nat} {token : String}
  {after tokens rest : List String} {left whole : Expression β}

/-- An expression read off the front of a token list, and the tokens left. -/
abbrev Reading (β : Type) :=
  Except (Halt ParseError) (Expression β × List String)

def takePrimary (primary : Primary β) (tokens : List String) : Reading β :=
  (readPrimary primary tokens).map fun taken => (taken.value, taken.rest)

def takeOperand (primary : Primary β) (depth : Nat) (tokens : List String) : Reading β :=
  (readOperand primary depth tokens).map fun taken => (taken.value, taken.rest)

def takeConjunction (primary : Primary β) (depth : Nat) (tokens : List String) : Reading β :=
  (readConjunction primary depth tokens).map fun taken => (taken.value, taken.rest)

def takeDisjunction (primary : Primary β) (depth : Nat) (tokens : List String) : Reading β :=
  (readDisjunction primary depth tokens).map fun taken => (taken.value, taken.rest)

def extendConjunction (primary : Primary β) (depth : Nat) (left : Expression β)
    (tokens : List String) : Reading β :=
  (continueConjunction primary depth left tokens).map fun taken => (taken.value, taken.rest)

def extendDisjunction (primary : Primary β) (depth : Nat) (left : Expression β)
    (tokens : List String) : Reading β :=
  (continueDisjunction primary depth left tokens).map fun taken => (taken.value, taken.rest)

/-! ## Primaries -/

theorem takePrimary_eq (primary : Primary β) (tokens : List String) :
    takePrimary primary tokens =
      match primary tokens with
      | .error error => .error error.committed
      | .ok (meaning, remaining) =>
        let taken := tokens.length - remaining.length
        if 0 < taken then .ok (.primary (tokens.take taken) meaning, tokens.drop taken)
        else .error Misplacement.idlePrimary.error := by
  unfold takePrimary readPrimary
  cases primary tokens with
  | error error => rfl
  | ok answer =>
      by_cases progress : 0 < tokens.length - answer.2.length <;> simp [progress, Except.map]

/-! ## Operands -/

theorem takeOperand_nil (primary : Primary β) (depth : Nat) :
    takeOperand primary depth [] = .error Misplacement.nothingThere.error := by
  rw [takeOperand, readOperand]
  rfl

theorem takeOperand_negation (mark : Mark.ofToken? token = some .negation) :
    takeOperand primary depth (token :: after) =
      if !startsOperand after then .error (Misplacement.nothingAfter token).error
      else if nestingLimit ≤ depth then .error (Misplacement.tooDeep nestingLimit).error
      else
        match takeOperand primary (depth + 1) after with
        | .error error => .error (error.shifted 1)
        | .ok (operand, rest) => .ok (.negation token operand, rest) := by
  rw [takeOperand, readOperand, takeOperand]
  simp only [mark]
  split
  · rfl
  · split
    · rfl
    · cases readOperand primary (depth + 1) after <;> rfl

theorem takeOperand_opening (mark : Mark.ofToken? token = some .opening) :
    takeOperand primary depth (token :: after) =
      if after.head?.bind Mark.ofToken? = some .closing then .error Misplacement.emptyGroup.error
      else if nestingLimit ≤ depth then .error (Misplacement.tooDeep nestingLimit).error
      else
        match takeDisjunction primary (depth + 1) after with
        | .error error => .error (error.shifted 1)
        | .ok (_, []) => .error Misplacement.unclosedGroup.error
        | .ok (inner, next :: rest) =>
          if Mark.ofToken? next = some .closing then .ok (.group inner, rest)
          else .error Misplacement.unclosedGroup.error := by
  rw [takeOperand, readOperand, takeDisjunction]
  simp only [mark]
  split
  · rfl
  · split
    · rfl
    · rcases readDisjunction primary (depth + 1) after with error | ⟨inner, _ | ⟨next, rest⟩, _⟩
      · rfl
      · rfl
      · by_cases closes : Mark.ofToken? next = some .closing <;> simp [closes, Except.map]

theorem takeOperand_closing (mark : Mark.ofToken? token = some .closing) :
    takeOperand primary depth (token :: after) = .error Misplacement.unopenedGroup.error := by
  rw [takeOperand, readOperand]
  simp only [mark]
  rfl

theorem takeOperand_joining
    (mark : Mark.ofToken? token = some .disjunction ∨ Mark.ofToken? token = some .conjunction) :
    takeOperand primary depth (token :: after) =
      .error (Misplacement.nothingBefore token).error := by
  rw [takeOperand, readOperand]
  rcases mark with mark | mark <;> simp only [mark] <;> rfl

theorem takeOperand_primary (mark : Mark.ofToken? token = none) :
    takeOperand primary depth (token :: after) = takePrimary primary (token :: after) := by
  rw [takeOperand, readOperand, takePrimary]
  simp only [mark]

/-! ## Conjunctions -/

theorem takeConjunction_eq (primary : Primary β) (depth : Nat) (tokens : List String) :
    takeConjunction primary depth tokens =
      match takeOperand primary depth tokens with
      | .error error => .error error
      | .ok (first, rest) =>
        (extendConjunction primary depth first rest).mapError
          (·.shifted (tokens.length - rest.length)) := by
  rw [takeConjunction, readConjunction, takeOperand]
  rcases readOperand primary depth tokens with error | ⟨first, rest, _⟩
  · rfl
  · simp only [Except.map, extendConjunction]
    cases continueConjunction primary depth first rest <;> rfl

theorem extendConjunction_nil (primary : Primary β) (depth : Nat) (left : Expression β) :
    extendConjunction primary depth left [] = .ok (left, []) := by
  rw [extendConjunction, continueConjunction]
  rfl

theorem extendConjunction_ending
    (mark : Mark.ofToken? token = some .disjunction ∨ Mark.ofToken? token = some .closing) :
    extendConjunction primary depth left (token :: after) = .ok (left, token :: after) := by
  rw [extendConjunction, continueConjunction]
  rcases mark with mark | mark <;> simp only [mark] <;> rfl

theorem extendConjunction_joined (mark : Mark.ofToken? token = some .conjunction) :
    extendConjunction primary depth left (token :: after) =
      if !startsOperand after then .error (Misplacement.nothingAfter token).error
      else
        match takeOperand primary depth after with
        | .error error => .error (error.shifted 1)
        | .ok (right, rest) =>
          (extendConjunction primary depth (.conjunction left (some token) right) rest).mapError
            (·.shifted ((token :: after).length - rest.length)) := by
  rw [extendConjunction, continueConjunction, takeOperand]
  simp only [mark]
  split
  · rfl
  · rcases readOperand primary depth after with error | ⟨right, rest, _⟩
    · rfl
    · simp only [Except.map, extendConjunction]
      cases continueConjunction primary depth (.conjunction left (some token) right) rest <;> rfl

/-- Where neither an end nor a word of conjunction stands, another operand follows. -/
theorem extendConjunction_adjacent (disjunction : Mark.ofToken? token ≠ some .disjunction)
    (closing : Mark.ofToken? token ≠ some .closing)
    (conjunction : Mark.ofToken? token ≠ some .conjunction) :
    extendConjunction primary depth left (token :: after) =
      match takeOperand primary depth (token :: after) with
      | .error error => .error error
      | .ok (right, rest) =>
        (extendConjunction primary depth (.conjunction left none right) rest).mapError
          (·.shifted ((token :: after).length - rest.length)) := by
  rw [extendConjunction, continueConjunction, takeOperand]
  split
  · contradiction
  · contradiction
  · contradiction
  · rcases readOperand primary depth (token :: after) with error | ⟨right, rest, _⟩
    · rfl
    · simp only [Except.map, extendConjunction]
      cases continueConjunction primary depth (.conjunction left none right) rest <;> rfl

/-! ## Disjunctions -/

theorem takeDisjunction_eq (primary : Primary β) (depth : Nat) (tokens : List String) :
    takeDisjunction primary depth tokens =
      match takeConjunction primary depth tokens with
      | .error error => .error error
      | .ok (first, rest) =>
        (extendDisjunction primary depth first rest).mapError
          (·.shifted (tokens.length - rest.length)) := by
  rw [takeDisjunction, readDisjunction, takeConjunction]
  rcases readConjunction primary depth tokens with error | ⟨first, rest, _⟩
  · rfl
  · simp only [Except.map, extendDisjunction]
    cases continueDisjunction primary depth first rest <;> rfl

theorem extendDisjunction_nil (primary : Primary β) (depth : Nat) (left : Expression β) :
    extendDisjunction primary depth left [] = .ok (left, []) := by
  rw [extendDisjunction, continueDisjunction]
  rfl

theorem extendDisjunction_ending (disjunction : Mark.ofToken? token ≠ some .disjunction) :
    extendDisjunction primary depth left (token :: after) = .ok (left, token :: after) := by
  rw [extendDisjunction, continueDisjunction]
  split
  · contradiction
  · rfl

theorem extendDisjunction_joined (mark : Mark.ofToken? token = some .disjunction) :
    extendDisjunction primary depth left (token :: after) =
      if !startsOperand after then .error (Misplacement.nothingAfter token).error
      else
        match takeConjunction primary depth after with
        | .error error => .error (error.shifted 1)
        | .ok (right, rest) =>
          (extendDisjunction primary depth (.disjunction left token right) rest).mapError
            (·.shifted ((token :: after).length - rest.length)) := by
  rw [extendDisjunction, continueDisjunction, takeConjunction]
  simp only [mark]
  split
  · rfl
  · rcases readConjunction primary depth after with error | ⟨right, rest, _⟩
    · rfl
    · simp only [Except.map, extendDisjunction]
      cases continueDisjunction primary depth (.disjunction left token right) rest <;> rfl

/-! ## Whole expressions -/

theorem read_eq (primary : Primary β) (tokens : List String) :
    read primary tokens =
      match takeDisjunction primary 0 tokens with
      | .error error => .error error
      | .ok (whole, []) => .ok whole
      | .ok (_, token :: rest) =>
        .error ((Misplacement.leftover token).error.atToken
          (tokens.length - (token :: rest).length)) := by
  rw [read, takeDisjunction]
  rcases readDisjunction primary 0 tokens with error | ⟨whole, _ | ⟨token, rest⟩, _⟩ <;> rfl

/-! ## What was read -/

theorem mapError_ok {ε ε' α : Type} (value : α) (f : ε → ε') :
    (Except.ok value).mapError f = .ok value :=
  rfl

theorem mapError_error {ε ε' α : Type} (error : ε) (f : ε → ε') :
    (Except.error error : Except ε α).mapError f = .error (f error) :=
  rfl

theorem mapError_eq_ok {ε ε' α : Type} {answer : Except ε α} {f : ε → ε'} {value : α} :
    answer.mapError f = .ok value ↔ answer = .ok value := by
  cases answer with
  | error error => constructor <;> intro same <;> cases same
  | ok answer => constructor <;> intro same <;> cases same <;> rfl

theorem mapError_eq_error {ε ε' α : Type} {answer : Except ε α} {f : ε → ε'} {error : ε'} :
    answer.mapError f = .error error ↔ ∃ fault, answer = .error fault ∧ f fault = error := by
  cases answer with
  | error fault => simp only [mapError_error, Except.error.injEq, exists_eq_left']
  | ok value => simp only [mapError_ok, reduceCtorEq, false_and, exists_false]

theorem length_lt_of_prefixed {answer : Except (Halt ParseError) (Prefixed (Expression β) tokens)}
    (taken : (answer.map fun taken => (taken.value, taken.rest)) = .ok (whole, rest)) :
    rest.length < tokens.length := by
  cases answer with
  | error error => contradiction
  | ok taken =>
      rcases Prod.mk.inj (Except.ok.inj taken) with ⟨_, rfl⟩
      exact Prefixed.shorter _

theorem length_lt_of_takeOperand (taken : takeOperand primary depth tokens = .ok (whole, rest)) :
    rest.length < tokens.length :=
  length_lt_of_prefixed taken

theorem length_lt_of_takeConjunction
    (taken : takeConjunction primary depth tokens = .ok (whole, rest)) :
    rest.length < tokens.length :=
  length_lt_of_prefixed taken

/-- A primary that has been read took at least one token, and left those that it did not take. -/
theorem takePrimary_cases (suffix : primary.LeavesSuffix)
    (taken : takePrimary primary tokens = .ok (whole, rest)) :
    ∃ words meaning, words ≠ [] ∧ tokens = words ++ rest ∧ whole = .primary words meaning ∧
      primary tokens = .ok (meaning, rest) := by
  rw [takePrimary_eq] at taken
  split at taken
  · contradiction
  · next meaning remaining answered =>
      rcases suffix _ _ _ answered with ⟨words, rfl⟩
      simp only [List.length_append, Nat.add_sub_cancel_right, List.take_left, List.drop_left]
        at taken
      split at taken
      · next progress =>
          simp only [Except.ok.injEq, Prod.mk.injEq] at taken
          rcases taken with ⟨rfl, rfl⟩
          exact ⟨words, meaning, List.length_pos_iff.mp progress, rfl, rfl, answered⟩
      · contradiction

/-- An operand that has been read is a negation, a group or a primary. -/
theorem takeOperand_cases (taken : takeOperand primary depth tokens = .ok (whole, rest)) :
    (∃ word after operand, tokens = word :: after ∧ whole = .negation word operand ∧
      Mark.ofToken? word = some .negation ∧ depth < nestingLimit ∧
      takeOperand primary (depth + 1) after = .ok (operand, rest)) ∨
    (∃ word after inner closing, tokens = word :: after ∧ whole = .group inner ∧
      Mark.ofToken? word = some .opening ∧ Mark.ofToken? closing = some .closing ∧
      depth < nestingLimit ∧
      takeDisjunction primary (depth + 1) after = .ok (inner, closing :: rest)) ∨
    ∃ word after, tokens = word :: after ∧ Mark.ofToken? word = none ∧
      takePrimary primary tokens = .ok (whole, rest) := by
  cases tokens with
  | nil =>
      rw [takeOperand_nil] at taken
      contradiction
  | cons word after =>
      rcases mark : Mark.ofToken? word with _ | mark'
      · rw [takeOperand_primary mark] at taken
        exact .inr (.inr ⟨word, after, rfl, mark, taken⟩)
      · cases mark' with
        | negation =>
            rw [takeOperand_negation mark] at taken
            split at taken
            · contradiction
            split at taken
            · contradiction
            split at taken
            · contradiction
            · next shallow _ operand remaining answered =>
                simp only [Except.ok.injEq, Prod.mk.injEq] at taken
                rcases taken with ⟨rfl, rfl⟩
                exact .inl ⟨word, after, operand, rfl, rfl, mark, Nat.not_le.mp shallow, answered⟩
        | opening =>
            rw [takeOperand_opening mark] at taken
            split at taken
            · contradiction
            split at taken
            · contradiction
            split at taken
            · contradiction
            · contradiction
            · next shallow _ inner next remaining answered =>
                split at taken
                · next closes =>
                    simp only [Except.ok.injEq, Prod.mk.injEq] at taken
                    rcases taken with ⟨rfl, rfl⟩
                    exact .inr (.inl ⟨word, after, inner, next, rfl, rfl, mark, closes,
                      Nat.not_le.mp shallow, answered⟩)
                · contradiction
        | closing =>
            rw [takeOperand_closing mark] at taken
            contradiction
        | disjunction =>
            rw [takeOperand_joining (.inl mark)] at taken
            contradiction
        | conjunction =>
            rw [takeOperand_joining (.inr mark)] at taken
            contradiction

theorem takeConjunction_cases (taken : takeConjunction primary depth tokens = .ok (whole, rest)) :
    ∃ first middle, takeOperand primary depth tokens = .ok (first, middle) ∧
      extendConjunction primary depth first middle = .ok (whole, rest) := by
  rw [takeConjunction_eq] at taken
  split at taken
  · contradiction
  · next first middle answered =>
      exact ⟨first, middle, answered, mapError_eq_ok.mp taken⟩

/-- A conjunction ends, or another operand is read, after a word of conjunction or at once. -/
theorem extendConjunction_cases
    (taken : extendConjunction primary depth left tokens = .ok (whole, rest)) :
    (whole = left ∧ rest = tokens) ∨
    (∃ word after right middle, tokens = word :: after ∧
      Mark.ofToken? word = some .conjunction ∧
      takeOperand primary depth after = .ok (right, middle) ∧
      extendConjunction primary depth (.conjunction left (some word) right) middle =
        .ok (whole, rest)) ∨
    ∃ right middle, takeOperand primary depth tokens = .ok (right, middle) ∧
      extendConjunction primary depth (.conjunction left none right) middle =
        .ok (whole, rest) := by
  cases tokens with
  | nil =>
      rw [extendConjunction_nil] at taken
      simp only [Except.ok.injEq, Prod.mk.injEq] at taken
      rcases taken with ⟨rfl, rfl⟩
      exact .inl ⟨rfl, rfl⟩
  | cons word after =>
      by_cases ends : Mark.ofToken? word = some .disjunction ∨ Mark.ofToken? word = some .closing
      · rw [extendConjunction_ending ends] at taken
        simp only [Except.ok.injEq, Prod.mk.injEq] at taken
        rcases taken with ⟨rfl, rfl⟩
        exact .inl ⟨rfl, rfl⟩
      rw [not_or] at ends
      by_cases joins : Mark.ofToken? word = some .conjunction
      · rw [extendConjunction_joined joins] at taken
        split at taken
        · contradiction
        split at taken
        · contradiction
        · next right middle answered =>
            exact .inr (.inl
              ⟨word, after, right, middle, rfl, joins, answered, mapError_eq_ok.mp taken⟩)
      · rw [extendConjunction_adjacent ends.1 ends.2 joins] at taken
        split at taken
        · contradiction
        · next right middle answered =>
            exact .inr (.inr ⟨right, middle, answered, mapError_eq_ok.mp taken⟩)

theorem takeDisjunction_cases (taken : takeDisjunction primary depth tokens = .ok (whole, rest)) :
    ∃ first middle, takeConjunction primary depth tokens = .ok (first, middle) ∧
      extendDisjunction primary depth first middle = .ok (whole, rest) := by
  rw [takeDisjunction_eq] at taken
  split at taken
  · contradiction
  · next first middle answered =>
      exact ⟨first, middle, answered, mapError_eq_ok.mp taken⟩

/-- A disjunction ends, or another conjunction is read after a word of disjunction. -/
theorem extendDisjunction_cases
    (taken : extendDisjunction primary depth left tokens = .ok (whole, rest)) :
    (whole = left ∧ rest = tokens) ∨
    ∃ word after right middle, tokens = word :: after ∧
      Mark.ofToken? word = some .disjunction ∧
      takeConjunction primary depth after = .ok (right, middle) ∧
      extendDisjunction primary depth (.disjunction left word right) middle =
        .ok (whole, rest) := by
  cases tokens with
  | nil =>
      rw [extendDisjunction_nil] at taken
      simp only [Except.ok.injEq, Prod.mk.injEq] at taken
      rcases taken with ⟨rfl, rfl⟩
      exact .inl ⟨rfl, rfl⟩
  | cons word after =>
      by_cases joins : Mark.ofToken? word = some .disjunction
      · rw [extendDisjunction_joined joins] at taken
        split at taken
        · contradiction
        split at taken
        · contradiction
        · next right middle answered =>
            exact .inr ⟨word, after, right, middle, rfl, joins, answered, mapError_eq_ok.mp taken⟩
      · rw [extendDisjunction_ending joins] at taken
        simp only [Except.ok.injEq, Prod.mk.injEq] at taken
        rcases taken with ⟨rfl, rfl⟩
        exact .inl ⟨rfl, rfl⟩

end Expression
end EntryTree
