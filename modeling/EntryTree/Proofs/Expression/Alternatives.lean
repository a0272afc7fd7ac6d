import EntryTree.Proofs.Expression.Locality
import EntryTree.Proofs.Expression.Recognition

/-!
# Alternatives

Two token lists with a word of disjunction between them are read as the disjunction of what each of
them is read as, and what is wrong with the second list is wrong with both together, only further
behind. This holds as long as no primary can tell what comes after the tokens that it takes.

Disjunctions group to the left. So the tree of the two lists together is not a disjunction of the
two trees: the first tree takes its place in front of the conjunctions of the second one.
-/

namespace EntryTree.Expression

variable {β : Type} {primary : Primary β} {depth : Nat}
  {tokens rest first second : List String} {word : String} {left right whole : Expression β}

/-- A derivation does not depend on the tokens behind those that it leaves. -/
theorem Derives.append {level : Level} (isLocal : primary.Local)
    (derived : Derives primary level tokens whole rest) (more : List String) :
    Derives primary level (tokens ++ more) whole (rest ++ more) := by
  induction derived with
  | @primary word words rest meaning free answered =>
      rcases isLocal answered with ⟨taken, split, unchanged⟩
      rw [← List.cons_append, List.append_left_inj] at split
      subst split
      rw [← List.cons_append, List.append_assoc]
      exact .primary free (unchanged (rest ++ more))
  | negation negates derived ih => exact .negation negates ih
  | group derived ih => exact .group ih
  | operand derived ih => exact .operand ih
  | joined first joins second ihFirst ihSecond => exact .joined ihFirst joins ihSecond
  | adjacent first second ihFirst ihSecond => exact .adjacent ihFirst ihSecond
  | conjunction derived ih => exact .conjunction ih
  | alternative first joins second ihFirst ihSecond => exact .alternative ihFirst joins ihSecond

theorem startsOperand_of_head (present : tokens ≠ [])
    (begins : ∀ token ∈ tokens.head?, token ∉ [")", "-o", "-or", "-a", "-and"]) :
    startsOperand tokens = true := by
  cases tokens with
  | nil => contradiction
  | cons token after =>
      have free := begins token rfl
      have closing := @Mark.ofToken?_eq_closing token
      have disjunction := @Mark.ofToken?_eq_disjunction token
      have conjunction := @Mark.ofToken?_eq_conjunction token
      unfold startsOperand
      grind

/-- The disjunction of an expression with another one, put in front of its conjunctions. -/
def alternative (left : Expression β) (word : String) : Expression β → Expression β
  | .disjunction first joining last => .disjunction (left.alternative word first) joining last
  | right => .disjunction left word right

theorem truth_alternative {α : Type} (interpret : β → Predicate Id α) (subject : α)
    (left : Expression β) (word : String) (right : Expression β) :
    (left.alternative word right).truth interpret subject =
      (left.truth interpret subject || right.truth interpret subject) := by
  induction right with
  | disjunction first joining last ihFirst ihLast =>
      simp [alternative, truth, ihFirst, Bool.or_assoc]
  | primary | negation | group | conjunction => rfl

theorem meanings_alternative (left : Expression β) (word : String) (right : Expression β) :
    (left.alternative word right).meanings = left.meanings ++ right.meanings := by
  induction right with
  | disjunction first joining last ihFirst ihLast => simp [alternative, meanings, ihFirst]
  | primary | negation | group | conjunction => rfl

theorem Derives.alternative_eq (derived : Derives primary .conjunction tokens right rest)
    (left : Expression β) (word : String) :
    left.alternative word right = .disjunction left word right := by
  cases derived with
  | operand derived => cases derived <;> rfl
  | joined | adjacent => rfl

/-- A disjunction is extended in the same way whatever stands in front of it. -/
theorem extendDisjunction_alternative (left : Expression β) (word : String)
    (right : Expression β) (tokens : List String) :
    extendDisjunction primary depth (left.alternative word right) tokens =
      (extendDisjunction primary depth right tokens).map fun (whole, rest) =>
        (left.alternative word whole, rest) := by
  induction tokens using (measure List.length).wf.induction generalizing right with
  | h tokens ih =>
      cases tokens with
      | nil =>
          rw [extendDisjunction_nil, extendDisjunction_nil]
          rfl
      | cons token after =>
          by_cases joins : Mark.ofToken? token = some .disjunction
          · rw [extendDisjunction_joined joins, extendDisjunction_joined joins]
            split
            · rfl
            · cases taken : takeConjunction primary depth after with
              | error error => rfl
              | ok answer =>
                  rcases answer with ⟨next, rest⟩
                  have shorter := length_lt_of_takeConjunction taken
                  have extended :=
                    ih rest (Nat.lt_succ_of_lt shorter) (.disjunction right token next)
                  rw [alternative] at extended
                  dsimp only
                  rw [extended]
                  cases extendDisjunction primary depth (.disjunction right token next) rest <;> rfl
          · rw [extendDisjunction_ending joins, extendDisjunction_ending joins]
            rfl

theorem takeDisjunction_alternative (isLocal : primary.Local)
    (reading : left.IsReadingOf primary first) (joins : word ∈ ["-o", "-or"])
    (starts : startsOperand second = true) :
    takeDisjunction primary 0 (first ++ word :: second) =
      ((takeDisjunction primary 0 second).map fun (whole, rest) =>
        (left.alternative word whole, rest)).mapError (·.shifted (first.length + 1)) := by
  have derived := reading.derived.append isLocal (word :: second)
  have ends : Level.conjunction.Ends (word :: second) := by
    intro token member
    rcases Option.some.inj member with rfl
    grind
  have taken := derived.resumes 0 (by simpa using reading.shallow) ends
  have places : (first ++ word :: second).length - (word :: second).length = first.length := by
    simp
  rw [List.nil_append, places] at taken
  rw [taken, extendDisjunction_joined (Mark.ofToken?_eq_disjunction.mpr joins),
    if_neg (by simp [starts]), takeDisjunction_eq]
  cases answered : takeConjunction primary 0 second with
  | error error =>
      simp only [Except.map, mapError_error, Halt.shifted_shifted, Nat.add_comm 1]
  | ok answer =>
      rcases answer with ⟨right, rest⟩
      have shorter := length_lt_of_takeConjunction answered
      have conjunction : Derives primary .conjunction second right rest :=
        (sound isLocal.leavesSuffix .conjunction second 0 _ _ (Nat.zero_le _) answered).1
      have places : (word :: second).length - rest.length + first.length =
          second.length - rest.length + (first.length + 1) := by
        rw [List.length_cons]
        omega
      dsimp only
      -- Both lists go on behind the same conjunction, so only the places of errors are left.
      rw [← conjunction.alternative_eq left word, extendDisjunction_alternative, mapError_shifted,
        places, ← mapError_shifted]
      cases extendDisjunction primary 0 right rest <;> rfl

/-- Two lists with a word of disjunction between them are an alternative if the second one can be
read, and otherwise fail as the second one does. -/
theorem read_alternative (isLocal : primary.Local) (answered : read primary first = .ok left)
    (joins : word ∈ ["-o", "-or"]) (starts : startsOperand second = true) :
    read primary (first ++ word :: second) =
      ((read primary second).map (left.alternative word)).mapError
        (·.shifted (first.length + 1)) := by
  have reading := (read_eq_ok_iff isLocal.leavesSuffix).mp answered
  rw [read_eq, read_eq, takeDisjunction_alternative isLocal reading joins starts]
  rcases taken : takeDisjunction primary 0 second with error | ⟨right, _ | ⟨token, rest⟩⟩
  · rfl
  · rfl
  · have derived := (sound isLocal.leavesSuffix .disjunction second 0 _ _ (Nat.zero_le _) taken).1
    have shorter := derived.length_lt
    have places : (first ++ word :: second).length - (token :: rest).length =
        second.length - (token :: rest).length + (first.length + 1) := by
      rw [List.length_append, List.length_cons]
      omega
    simp only [Except.map, mapError_ok, mapError_error, places]
    rfl

end EntryTree.Expression
