import EntryTree.Proofs.Expression.Locality
import EntryTree.Proofs.Expression.Recognition
import Mathlib.Data.List.Forall2

/-!
# Meanings

What the primaries of an expression mean has no say in how it is read. Other meanings of the same
primaries give the same tree with the other meanings in it, and the same errors at the same tokens.
This is shown level by level, as everything about the readers is.

So two stocks of primaries that answer alike, apart from what the answers mean, can be read at once,
as one stock in which every primary has two meanings.
-/

namespace EntryTree

variable {β γ : Type}

namespace Expression

variable {primary : Primary β} {tokens : List String} {f : β → γ}

/-- The expression with other meanings of its primaries. -/
def map (f : β → γ) : Expression β → Expression γ
  | .primary words meaning => .primary words (f meaning)
  | .negation word operand => .negation word (operand.map f)
  | .group inner => .group (inner.map f)
  | .conjunction left word right => .conjunction (left.map f) word (right.map f)
  | .disjunction left word right => .disjunction (left.map f) word (right.map f)

theorem meanings_map (f : β → γ) (whole : Expression β) :
    (whole.map f).meanings = whole.meanings.map f := by
  induction whole with
  | primary words meaning => rfl
  | negation word operand ih => exact ih
  | group inner ih => exact ih
  | conjunction left word right ihLeft ihRight =>
      simp only [map, meanings, ihLeft, ihRight, List.map_append]
  | disjunction left word right ihLeft ihRight =>
      simp only [map, meanings, ihLeft, ihRight, List.map_append]

theorem truth_map {α : Type} (f : β → γ) (interpret : γ → Predicate Id α) (subject : α)
    (whole : Expression β) :
    (whole.map f).truth interpret subject =
      whole.truth (fun meaning => interpret (f meaning)) subject := by
  induction whole with
  | primary words meaning => rfl
  | negation word operand ih => simp only [map, truth, ih]
  | group inner ih => exact ih
  | conjunction left word right ihLeft ihRight => simp only [map, truth, ihLeft, ihRight]
  | disjunction left word right ihLeft ihRight => simp only [map, truth, ihLeft, ihRight]

/-- The reading with other meanings of the primaries. -/
def Reading.reinterpret (f : β → γ) (reading : Reading β) : Reading γ :=
  Except.map (fun (whole, rest) => (whole.map f, rest)) reading

theorem reinterpret_mapError (f : β → γ) (reading : Reading β)
    (change : Halt ParseError → Halt ParseError) :
    Reading.reinterpret f (reading.mapError change) =
      (Reading.reinterpret f reading).mapError change := by
  cases reading <;> rfl

theorem takePrimary_map (f : β → γ) (primary : Primary β) (tokens : List String) :
    takePrimary (primary.map f) tokens = (takePrimary primary tokens).reinterpret f := by
  rw [takePrimary_eq, takePrimary_eq, Primary.map]
  cases primary tokens with
  | error error => rfl
  | ok answer =>
      simp only [Except.map]
      split <;> rfl

/-- The reader of a level reads the same tree whatever the primaries mean. -/
def Level.Natural (level : Level) (primary : Primary β) (f : β → γ) (tokens : List String) : Prop :=
  ∀ depth, level.take (primary.map f) depth tokens =
    (level.take primary depth tokens).reinterpret f

theorem natural_operand
    (shorter : ∀ after : List String, after.length < tokens.length →
      ∀ level : Level, level.Natural primary f after) :
    Level.operand.Natural primary f tokens := by
  intro depth
  simp only [Level.take]
  cases tokens with
  | nil =>
      rw [takeOperand_nil, takeOperand_nil]
      rfl
  | cons token after =>
      have operand : takeOperand (primary.map f) (depth + 1) after = _ :=
        shorter after (Nat.lt_succ_self _) .operand (depth + 1)
      have disjunction : takeDisjunction (primary.map f) (depth + 1) after = _ :=
        shorter after (Nat.lt_succ_self _) .disjunction (depth + 1)
      rcases mark : Mark.ofToken? token with _ | mark'
      · rw [takeOperand_primary mark, takeOperand_primary mark, takePrimary_map]
      · cases mark' with
        | negation =>
            rw [takeOperand_negation mark, takeOperand_negation mark, operand]
            split
            · rfl
            · split
              · rfl
              · simp only [Level.take]
                cases takeOperand primary (depth + 1) after <;> rfl
        | opening =>
            rw [takeOperand_opening mark, takeOperand_opening mark, disjunction]
            split
            · rfl
            · split
              · rfl
              · simp only [Level.take]
                rcases takeDisjunction primary (depth + 1) after with
                  error | ⟨inner, _ | ⟨next, rest⟩⟩
                · rfl
                · rfl
                · simp only [Reading.reinterpret, Except.map]
                  split <;> rfl
        | closing =>
            rw [takeOperand_closing mark, takeOperand_closing mark]
            rfl
        | disjunction =>
            rw [takeOperand_joining (.inl mark), takeOperand_joining (.inl mark)]
            rfl
        | conjunction =>
            rw [takeOperand_joining (.inr mark), takeOperand_joining (.inr mark)]
            rfl

section Extending

variable {bound : Nat}

theorem extendConjunction_map
    (operands : ∀ after : List String, after.length < bound →
      Level.operand.Natural primary f after)
    (short : tokens.length < bound) (depth : Nat) (left : Expression β) :
    extendConjunction (primary.map f) depth (left.map f) tokens =
      (extendConjunction primary depth left tokens).reinterpret f := by
  induction tokens using (measure List.length).wf.induction generalizing left with
  | h tokens ih =>
      cases tokens with
      | nil =>
          rw [extendConjunction_nil, extendConjunction_nil]
          rfl
      | cons token after =>
          rw [List.length_cons] at short
          by_cases ends :
            Mark.ofToken? token = some .disjunction ∨ Mark.ofToken? token = some .closing
          · rw [extendConjunction_ending ends, extendConjunction_ending ends]
            rfl
          rw [not_or] at ends
          by_cases joins : Mark.ofToken? token = some .conjunction
          · have operand : takeOperand (primary.map f) depth after = _ :=
              operands after (by omega) depth
            rw [extendConjunction_joined joins, extendConjunction_joined joins, operand]
            split
            · rfl
            · simp only [Level.take]
              cases taken : takeOperand primary depth after with
              | error error => rfl
              | ok answer =>
                  have less := length_lt_of_takeOperand taken
                  have extended := ih answer.2 (Nat.lt_succ_of_lt less) (by omega)
                    (.conjunction left (some token) answer.1)
                  rw [reinterpret_mapError, ← extended]
                  rfl
          · have operand : takeOperand (primary.map f) depth (token :: after) = _ :=
              operands (token :: after) short depth
            rw [extendConjunction_adjacent ends.1 ends.2 joins,
              extendConjunction_adjacent ends.1 ends.2 joins, operand]
            simp only [Level.take]
            cases taken : takeOperand primary depth (token :: after) with
            | error error => rfl
            | ok answer =>
                have less := length_lt_of_takeOperand taken
                have extended := ih answer.2 less (by rw [List.length_cons] at less; omega)
                  (.conjunction left none answer.1)
                rw [reinterpret_mapError, ← extended]
                rfl

theorem extendDisjunction_map
    (conjunctions : ∀ after : List String, after.length < bound →
      Level.conjunction.Natural primary f after)
    (short : tokens.length < bound) (depth : Nat) (left : Expression β) :
    extendDisjunction (primary.map f) depth (left.map f) tokens =
      (extendDisjunction primary depth left tokens).reinterpret f := by
  induction tokens using (measure List.length).wf.induction generalizing left with
  | h tokens ih =>
      cases tokens with
      | nil =>
          rw [extendDisjunction_nil, extendDisjunction_nil]
          rfl
      | cons token after =>
          rw [List.length_cons] at short
          by_cases joins : Mark.ofToken? token = some .disjunction
          · have conjunction : takeConjunction (primary.map f) depth after = _ :=
              conjunctions after (by omega) depth
            rw [extendDisjunction_joined joins, extendDisjunction_joined joins, conjunction]
            split
            · rfl
            · simp only [Level.take]
              cases taken : takeConjunction primary depth after with
              | error error => rfl
              | ok answer =>
                  have less := length_lt_of_takeConjunction taken
                  have extended := ih answer.2 (Nat.lt_succ_of_lt less) (by omega)
                    (.disjunction left token answer.1)
                  rw [reinterpret_mapError, ← extended]
                  rfl
          · rw [extendDisjunction_ending joins, extendDisjunction_ending joins]
            rfl

end Extending

theorem natural (f : β → γ) (primary : Primary β) (level : Level) (tokens : List String) :
    level.Natural primary f tokens := by
  induction level, tokens using Level.induction with
  | operand tokens shorter => exact natural_operand shorter
  | conjunction tokens shorter operand =>
      intro depth
      have first : takeOperand (primary.map f) depth tokens = _ := operand depth
      simp only [Level.take, takeConjunction_eq] at first ⊢
      rw [first]
      cases taken : takeOperand primary depth tokens with
      | error error => rfl
      | ok answer =>
          have extended := extendConjunction_map (fun after short => shorter after short .operand)
            (length_lt_of_takeOperand taken) depth answer.1
          simp only [reinterpret_mapError, ← extended]
          rfl
  | disjunction tokens shorter conjunction =>
      intro depth
      have first : takeConjunction (primary.map f) depth tokens = _ := conjunction depth
      simp only [Level.take, takeDisjunction_eq] at first ⊢
      rw [first]
      cases taken : takeConjunction primary depth tokens with
      | error error => rfl
      | ok answer =>
          have extended := extendDisjunction_map
            (fun after short => shorter after short .conjunction)
            (length_lt_of_takeConjunction taken) depth answer.1
          simp only [reinterpret_mapError, ← extended]
          rfl

/-- Whole token lists are read into the same tree whatever the primaries mean. -/
theorem read_map (f : β → γ) (primary : Primary β) (tokens : List String) :
    read (primary.map f) tokens = (read primary tokens).map (map f) := by
  have taken : takeDisjunction (primary.map f) 0 tokens = _ :=
    natural f primary .disjunction tokens 0
  rw [read_eq, read_eq, taken]
  simp only [Level.take]
  rcases takeDisjunction primary 0 tokens with error | ⟨whole, _ | ⟨token, rest⟩⟩ <;> rfl

end Expression

/-! ## Primaries that answer alike -/

namespace Primary

variable {β' γ' : Type} {related : β → γ → Prop} {first : Primary β} {second : Primary γ}

/-- Two primaries fail with the same errors and leave the same tokens, and what their answers mean
is related. -/
def Alike (related : β → γ → Prop) (first : Primary β) (second : Primary γ) : Prop :=
  ∀ tokens,
    (∃ error, first tokens = .error error ∧ second tokens = .error error) ∨
    ∃ meaning other rest, first tokens = .ok (meaning, rest) ∧ second tokens = .ok (other, rest) ∧
      related meaning other

theorem alike_refl (primary : Primary β) : Alike (· = ·) primary primary := by
  intro tokens
  rcases primary tokens with error | ⟨meaning, rest⟩
  · exact .inl ⟨error, rfl, rfl⟩
  · exact .inr ⟨meaning, meaning, rest, rfl, rfl, rfl⟩

theorem Alike.imp {related' : β → γ → Prop} (alike : Alike related first second)
    (implies : ∀ meaning other, related meaning other → related' meaning other) :
    Alike related' first second := by
  intro tokens
  rcases alike tokens with failed | ⟨meaning, other, rest, answered, answered', relates⟩
  · exact .inl failed
  · exact .inr ⟨meaning, other, rest, answered, answered', implies meaning other relates⟩

theorem Alike.map {related' : β' → γ' → Prop} {f : β → β'} {g : γ → γ'}
    (alike : Alike related first second)
    (keeps : ∀ meaning other, related meaning other → related' (f meaning) (g other)) :
    Alike related' (first.map f) (second.map g) := by
  intro tokens
  rcases alike tokens with
    ⟨error, failed, failed'⟩ | ⟨meaning, other, rest, answered, answered', relates⟩
  · refine .inl ⟨error, ?_, ?_⟩
    · rw [Primary.map, failed]
      rfl
    · rw [Primary.map, failed']
      rfl
  · refine .inr ⟨f meaning, g other, rest, ?_, ?_, keeps meaning other relates⟩
    · rw [Primary.map, answered]
      rfl
    · rw [Primary.map, answered']
      rfl

theorem alike_firstOf (expected : String) {primaries : List (Primary β)}
    {others : List (Primary γ)} (alike : List.Forall₂ (Alike related) primaries others) :
    Alike related (firstOf expected primaries) (firstOf expected others) := by
  intro tokens
  induction alike with
  | nil => exact .inl ⟨.mismatch expected, rfl, rfl⟩
  | cons head _ ih =>
      simp only [firstOf]
      rcases head tokens with
        ⟨error, failed, failed'⟩ | ⟨meaning, other, rest, answered, answered', relates⟩
      · rw [failed, failed']
        dsimp only
        split
        · exact ih
        · exact .inl ⟨error, rfl, rfl⟩
      · rw [answered, answered']
        exact .inr ⟨meaning, other, rest, rfl, rfl, relates⟩

/-- Primaries that answer alike are one primary whose meanings are pairs. -/
theorem Alike.joint (alike : Alike related first second) :
    ∃ both : Primary {pair : β × γ // related pair.1 pair.2},
      first = both.map (fun pair => pair.1.1) ∧ second = both.map (fun pair => pair.1.2) := by
  have answers : ∀ tokens,
      ∃ answer : Except (Halt ParseError) ({pair : β × γ // related pair.1 pair.2} × List String),
        first tokens = answer.map (fun (pair, rest) => (pair.1.1, rest)) ∧
        second tokens = answer.map (fun (pair, rest) => (pair.1.2, rest)) := by
    intro tokens
    rcases alike tokens with
      ⟨error, failed, failed'⟩ | ⟨meaning, other, rest, answered, answered', relates⟩
    · exact ⟨.error error, failed, failed'⟩
    · exact ⟨.ok (⟨(meaning, other), relates⟩, rest), answered, answered'⟩
  refine ⟨fun tokens => Classical.choose (answers tokens), ?_, ?_⟩
  · exact funext fun tokens => (Classical.choose_spec (answers tokens)).1
  · exact funext fun tokens => (Classical.choose_spec (answers tokens)).2

end Primary

/-- Values that are listed under the same keys are found under the same keys. -/
theorem Keyed.rel_find?_ofList {related : β → γ → Prop} {first : List (String × β)}
    {second : List (String × γ)}
    (alike :
      List.Forall₂ (fun pair other => pair.1 = other.1 ∧ related pair.2 other.2) first second)
    (key : String) :
    Option.Rel related ((ofList first).find? key) ((ofList second).find? key) := by
  have inserted : ∀ (collection : Keyed β) (other : Keyed γ),
      Option.Rel related (collection.find? key) (other.find? key) →
      Option.Rel related
        ((first.foldl (fun collection pair => collection.insert pair.1 pair.2) collection).find?
          key)
        ((second.foldl (fun collection pair => collection.insert pair.1 pair.2) other).find?
          key) := by
    induction alike with
    | nil => exact fun collection other found => found
    | @cons pair pair' _ _ head _ ih =>
        intro collection other found
        apply ih
        rw [find?_insert, find?_insert, ← head.1]
        split
        · exact .some head.2
        · exact found
  exact inserted empty empty .none

theorem PrimaryTable.alike_primary {related : β → γ → Prop} {first : PrimaryTable β}
    {second : PrimaryTable γ}
    (alike : ∀ name, Option.Rel (Primary.Alike related) (first.find? name) (second.find? name)) :
    Primary.Alike related first.primary second.primary := by
  intro tokens
  cases tokens with
  | nil => exact .inl ⟨_, rfl, rfl⟩
  | cons name after =>
      have chosen := alike name
      simp only [PrimaryTable.primary]
      generalize first.find? name = one, second.find? name = two at chosen
      cases chosen with
      | none => exact .inl ⟨_, rfl, rfl⟩
      | some chosen =>
          rcases chosen after with
            ⟨error, failed, failed'⟩ | ⟨meaning, other, rest, answered, answered', relates⟩
          · dsimp only
            rw [failed, failed']
            exact .inl ⟨_, rfl, rfl⟩
          · dsimp only
            rw [answered, answered']
            exact .inr ⟨meaning, other, rest, rfl, rfl, relates⟩

/-- Primaries that answer alike are read into the same tree, or fail with the same error. -/
theorem Expression.read_alike {related : β → γ → Prop} {first : Primary β} {second : Primary γ}
    (alike : Primary.Alike related first second) (tokens : List String) :
    (∃ error, read first tokens = .error error ∧ read second tokens = .error error) ∨
    ∃ whole : Expression {pair : β × γ // related pair.1 pair.2},
      read first tokens = .ok (whole.map fun pair => pair.1.1) ∧
      read second tokens = .ok (whole.map fun pair => pair.1.2) := by
  rcases alike.joint with ⟨both, rfl, rfl⟩
  rw [read_map, read_map]
  cases read both tokens with
  | error error => exact .inl ⟨error, rfl, rfl⟩
  | ok whole => exact .inr ⟨whole, rfl, rfl⟩

end EntryTree
