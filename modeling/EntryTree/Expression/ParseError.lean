import EntryTree.Halt

/-!
# Parse errors

A parser of tokens fails in one of two ways. Either the tokens are not for it, and another parser
may be tried, or they are for it and malformed, and nothing else is tried. An error also names the
offending token, counted from the first token the failing parser was given; whoever hands out only
a part of its own tokens shifts the position by the tokens it kept.

A parser may also panic. All that is done to errors leaves panics as they are.
-/

namespace EntryTree

/-- How a parser failed. -/
inductive ParseError.Kind
  /-- The tokens are not for this parser. -/
  | mismatch
  /-- The tokens are for this parser, and it cannot accept them. -/
  | malformed
  deriving DecidableEq, Repr

/-- A parse failure with the index of the offending token. -/
structure ParseError where
  kind : ParseError.Kind
  message : String
  position : Nat := 0
  deriving DecidableEq, Repr

namespace ParseError

/-- The first token given is not for this parser. -/
def mismatch (message : String) : ParseError :=
  ⟨.mismatch, message, 0⟩

/-- The first token given is malformed. -/
def malformed (message : String) : ParseError :=
  ⟨.malformed, message, 0⟩

/-- The same error at another token. -/
def atToken (error : ParseError) (position : Nat) : ParseError :=
  { error with position }

/-- The same error counted from a token that many places earlier. -/
def shifted (error : ParseError) (offset : Nat) : ParseError :=
  { error with position := error.position + offset }

/-- The same error once there is no other parser left to try. -/
def committed (error : ParseError) : ParseError :=
  { error with kind := .malformed }

/-- The same error reported by the parser that goes by `name`. -/
def attributed (error : ParseError) (name : String) : ParseError :=
  { error with message := name ++ ": " ++ error.message }

/-- Whether another parser may be tried. -/
def isMismatch (error : ParseError) : Bool :=
  error.kind == .mismatch

/-- The report for people, who count tokens from one. -/
def display (error : ParseError) : String :=
  s!"invalid expression at token {error.position + 1}: {error.message}"

end ParseError

namespace Halt

@[inherit_doc ParseError.mismatch, simp, grind =]
def mismatch (message : String) : Halt ParseError :=
  .failure (.mismatch message)

@[inherit_doc ParseError.malformed, simp, grind =]
def malformed (message : String) : Halt ParseError :=
  .failure (.malformed message)

@[inherit_doc ParseError.shifted]
def shifted (halt : Halt ParseError) (offset : Nat) : Halt ParseError :=
  halt.map (·.shifted offset)

@[inherit_doc ParseError.committed]
def committed (halt : Halt ParseError) : Halt ParseError :=
  halt.map ParseError.committed

@[inherit_doc ParseError.attributed]
def attributed (halt : Halt ParseError) (name : String) : Halt ParseError :=
  halt.map (·.attributed name)

/-- Whether another parser may be tried. -/
def isMismatch : Halt ParseError → Bool
  | .failure error => error.isMismatch
  | .panic _ => false

theorem map_eq_failure {ε δ : Type} {f : ε → δ} {halt : Halt ε} {error : δ} :
    halt.map f = .failure error ↔ ∃ fault, halt = .failure fault ∧ f fault = error := by
  cases halt <;> simp

@[simp]
theorem shifted_failure (error : ParseError) (offset : Nat) :
    (failure error).shifted offset = .failure (error.shifted offset) :=
  rfl

theorem shifted_zero (halt : Halt ParseError) : halt.shifted 0 = halt := by
  cases halt <;> rfl

theorem shifted_shifted (halt : Halt ParseError) (first second : Nat) :
    (halt.shifted first).shifted second = halt.shifted (first + second) := by
  cases halt with
  | failure error => simp only [shifted, map, ParseError.shifted, Nat.add_assoc]
  | panic message => rfl

end Halt
end EntryTree
