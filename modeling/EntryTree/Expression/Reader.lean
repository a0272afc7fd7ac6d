import EntryTree.Expression.Basic
import EntryTree.Expression.Primary

/-!
# Reading expressions

Recursive descent over the grammar of expressions, with one token of lookahead. Every function
takes the tokens still to be read and answers with what it read and the tokens left, together with
the proof that it made progress. Errors are located relative to the tokens a function was given.

Negations and parentheses may enclose one another up to `Expression.nestingLimit`; the depth is
passed down, so it is the same again after every operand.
-/

namespace EntryTree

variable {β : Type}

/-- What is wrong with the arrangement of the tokens of an expression. -/
inductive Misplacement
  | nothingThere
  | nothingAfter (word : String)
  | nothingBefore (word : String)
  | emptyGroup
  | unclosedGroup
  | unopenedGroup
  | tooDeep (limit : Nat)
  | idlePrimary
  | leftover (token : String)
  deriving DecidableEq, Repr

/-- The wording of a misplacement. -/
def Misplacement.message : Misplacement → String
  | .nothingThere => "expected an expression"
  | .nothingAfter word => s!"expected an expression after {word}"
  | .nothingBefore word => s!"expected an expression before {word}"
  | .emptyGroup => "empty parentheses"
  | .unclosedGroup => "expected a closing parenthesis"
  | .unopenedGroup => "unexpected \")\""
  | .tooDeep limit => s!"expressions nest deeper than {limit}"
  | .idlePrimary => "primary consumed no tokens"
  | .leftover token => s!"unexpected {Text.quoted token}"

/-- The error for a misplacement at the first token given. -/
def Misplacement.error (misplacement : Misplacement) : ParseError :=
  .malformed misplacement.message

namespace Expression

/-- How many negations and parentheses may enclose one another. -/
def nestingLimit : Nat := 256

/-- Whether an operand may begin here: there is a token, and it neither closes nor joins. -/
def startsOperand : List String → Bool
  | [] => false
  | token :: _ =>
    match Mark.ofToken? token with
    | some .closing | some .disjunction | some .conjunction => false
    | _ => true

/-- Something read off the front of `tokens`, leaving fewer of them. -/
structure Prefixed (γ : Type) (tokens : List String) where
  value : γ
  rest : List String
  shorter : rest.length < tokens.length

/-- Something continued over the front of `tokens`, perhaps leaving all of them. -/
structure Continued (γ : Type) (tokens : List String) where
  value : γ
  rest : List String
  notLonger : rest.length ≤ tokens.length

/-- Reads one primary, which has to take a token at least. -/
def readPrimary (primary : Primary β) (tokens : List String) :
    Except (Halt ParseError) (Prefixed (Expression β) tokens) :=
  match primary tokens with
  | .error halt => .error halt.committed
  | .ok (meaning, remaining) =>
    let taken := tokens.length - remaining.length
    if progress : 0 < taken then
      .ok ⟨.primary (tokens.take taken) meaning, tokens.drop taken, by
        rw [List.length_drop]; omega⟩
    else .error Misplacement.idlePrimary.error

mutual

/-- Reads a negation, a group or a primary. -/
def readOperand (primary : Primary β) (depth : Nat) (tokens : List String) :
    Except (Halt ParseError) (Prefixed (Expression β) tokens) :=
  match tokens with
  | [] => .error Misplacement.nothingThere.error
  | token :: after =>
    match Mark.ofToken? token with
    | some .negation =>
      if !startsOperand after then .error (Misplacement.nothingAfter token).error
      else if nestingLimit ≤ depth then .error (Misplacement.tooDeep nestingLimit).error
      else
        match readOperand primary (depth + 1) after with
        | .error halt => .error (halt.shifted 1)
        | .ok ⟨operand, rest, shorter⟩ =>
          .ok ⟨.negation token operand, rest, by rw [List.length_cons]; omega⟩
    | some .opening =>
      if (after.head?.bind Mark.ofToken?) = some .closing then .error Misplacement.emptyGroup.error
      else if nestingLimit ≤ depth then .error (Misplacement.tooDeep nestingLimit).error
      else
        match readDisjunction primary (depth + 1) after with
        | .error halt => .error (halt.shifted 1)
        | .ok ⟨inner, [], _⟩ => .error Misplacement.unclosedGroup.error
        | .ok ⟨inner, next :: rest, shorter⟩ =>
          if Mark.ofToken? next = some .closing then
            .ok ⟨.group inner, rest, by rw [List.length_cons] at *; omega⟩
          else .error Misplacement.unclosedGroup.error
    | some .closing => .error Misplacement.unopenedGroup.error
    | some .disjunction | some .conjunction => .error (Misplacement.nothingBefore token).error
    | none => readPrimary primary (token :: after)
termination_by (tokens.length, 0)

/-- Reads operands that stand side by side or are joined by words of conjunction. -/
def readConjunction (primary : Primary β) (depth : Nat) (tokens : List String) :
    Except (Halt ParseError) (Prefixed (Expression β) tokens) :=
  match readOperand primary depth tokens with
  | .error halt => .error halt
  | .ok ⟨first, rest, shorter⟩ =>
    match continueConjunction primary depth first rest with
    | .error halt => .error (halt.shifted (tokens.length - rest.length))
    | .ok ⟨whole, rest, notLonger⟩ => .ok ⟨whole, rest, by omega⟩
termination_by (tokens.length, 1)

/-- Reads the further operands of a conjunction. -/
def continueConjunction (primary : Primary β) (depth : Nat) (left : Expression β)
    (tokens : List String) : Except (Halt ParseError) (Continued (Expression β) tokens) :=
  match tokens with
  | [] => .ok ⟨left, [], by simp⟩
  | token :: after =>
    match Mark.ofToken? token with
    | some .disjunction | some .closing => .ok ⟨left, token :: after, by simp⟩
    | some .conjunction =>
      if !startsOperand after then .error (Misplacement.nothingAfter token).error
      else
        match readOperand primary depth after with
        | .error halt => .error (halt.shifted 1)
        | .ok ⟨right, rest, shorter⟩ =>
          match continueConjunction primary depth (.conjunction left (some token) right) rest with
          | .error halt => .error (halt.shifted ((token :: after).length - rest.length))
          | .ok ⟨whole, rest, notLonger⟩ => .ok ⟨whole, rest, by rw [List.length_cons]; omega⟩
    | _ =>
      match readOperand primary depth (token :: after) with
      | .error halt => .error halt
      | .ok ⟨right, rest, shorter⟩ =>
        match continueConjunction primary depth (.conjunction left none right) rest with
        | .error halt => .error (halt.shifted ((token :: after).length - rest.length))
        | .ok ⟨whole, rest, notLonger⟩ => .ok ⟨whole, rest, by omega⟩
termination_by (tokens.length, 1)

/-- Reads conjunctions that are joined by words of disjunction. -/
def readDisjunction (primary : Primary β) (depth : Nat) (tokens : List String) :
    Except (Halt ParseError) (Prefixed (Expression β) tokens) :=
  match readConjunction primary depth tokens with
  | .error halt => .error halt
  | .ok ⟨first, rest, shorter⟩ =>
    match continueDisjunction primary depth first rest with
    | .error halt => .error (halt.shifted (tokens.length - rest.length))
    | .ok ⟨whole, rest, notLonger⟩ => .ok ⟨whole, rest, by omega⟩
termination_by (tokens.length, 2)

/-- Reads the further conjunctions of a disjunction. -/
def continueDisjunction (primary : Primary β) (depth : Nat) (left : Expression β)
    (tokens : List String) : Except (Halt ParseError) (Continued (Expression β) tokens) :=
  match tokens with
  | [] => .ok ⟨left, [], by simp⟩
  | token :: after =>
    match Mark.ofToken? token with
    | some .disjunction =>
      if !startsOperand after then .error (Misplacement.nothingAfter token).error
      else
        match readConjunction primary depth after with
        | .error halt => .error (halt.shifted 1)
        | .ok ⟨right, rest, shorter⟩ =>
          match continueDisjunction primary depth (.disjunction left token right) rest with
          | .error halt => .error (halt.shifted ((token :: after).length - rest.length))
          | .ok ⟨whole, rest, notLonger⟩ => .ok ⟨whole, rest, by rw [List.length_cons]; omega⟩
    | _ => .ok ⟨left, token :: after, by simp⟩
termination_by (tokens.length, 2)

end

/-- Reads a whole token list as one expression. -/
def read (primary : Primary β) (tokens : List String) : Except (Halt ParseError) (Expression β) :=
  match readDisjunction primary 0 tokens with
  | .error halt => .error halt
  | .ok ⟨whole, [], _⟩ => .ok whole
  | .ok ⟨_, token :: rest, _⟩ =>
    .error ((Misplacement.leftover token).error.atToken (tokens.length - (token :: rest).length))

/-- Reads a token list as an expression, or as none at all if it is empty. -/
def read? (primary : Primary β) (tokens : List String) :
    Except (Halt ParseError) (Option (Expression β)) :=
  if tokens.isEmpty then .ok none else (read primary tokens).map some

/-- The predicate of an expression; without one, everything is accepted. -/
def predicate? {m : Type → Type} [Monad m] {α : Type} (interpret : β → Predicate m α)
    (expression : Option (Expression β)) : Predicate m α :=
  match expression with
  | none => .always true
  | some expression => expression.predicate interpret

end Expression
end EntryTree
