import Mathlib.Data.Int.Basic
import Mathlib.Tactic.Linarith
import EntryTree.Command.Script.Arithmetic

/-!
# Arithmetic of scripts stays within its words

The value of an expression is an integer of 64 bits, and so is every value that the expression
assigns, whatever the parameters of the shell are set to.

An evaluation is `Bounded` if it leads from states that are `Sound` to sound ones and brings only
results with a property. Bounded evaluations compose like programs do, so that there is a lemma for
each thing an evaluation is made of, one for each operator, and the induction on the steps goes
through the grades once.
-/

namespace EntryTree.Command.Arithmetic

/-- An integer that 64 bits hold. -/
def Fits (value : Int) : Prop :=
  Numeral.least ≤ value ∧ value ≤ Numeral.greatest

instance {value : Int} : Decidable (Fits value) :=
  inferInstanceAs (Decidable (_ ∧ _))

theorem fits_iff {value : Int} :
    Fits value ↔ -9223372036854775808 ≤ value ∧ value ≤ 9223372036854775807 :=
  Iff.rfl

/-! ### Operators -/

theorem fits_wrap (value : Int) : Fits (wrap value) := by
  have lower := Int.le_bmod (x := value) (m := 18446744073709551616) (by decide)
  have upper := Int.bmod_lt (x := value) (m := 18446744073709551616) (by decide)
  rw [fits_iff, wrap]
  omega

theorem fits_word (value : BitVec 64) : Fits value.toInt := by
  have lower := value.le_toInt
  have upper := value.toInt_lt
  rw [fits_iff]
  omega

theorem fits_truth (value : Bool) : Fits (truth value) := by
  cases value <;> decide

theorem fits_zero : Fits 0 := by decide

theorem fits_complement {value : Int} (fits : Fits value) : Fits (-value - 1) := by
  rw [fits_iff] at *
  omega

theorem fits_tmod {first : Int} (fits : Fits first) (second : Int) : Fits (first.tmod second) := by
  have near : (first.tmod second).natAbs ≤ first.natAbs := by
    rw [Int.natAbs_tmod]
    exact Nat.mod_le _ _
  have sign : 0 ≤ first → 0 ≤ first.tmod second := Int.tmod_nonneg second
  have opposite : 0 ≤ -first → 0 ≤ (-first).tmod second := Int.tmod_nonneg second
  rw [Int.neg_tmod] at opposite
  rw [fits_iff] at *
  omega

theorem fits_shiftRight {first : Int} (fits : Fits first) (count : Nat) :
    Fits (first >>> count) := by
  have positive : (1 : Int) ≤ (2 ^ count : Nat) := by exact_mod_cast Nat.one_le_two_pow
  rw [fits_iff] at *
  rw [Int.shiftRight_eq_div_pow]
  constructor
  · rw [Int.le_ediv_iff_mul_le (by omega)]
    nlinarith
  · rw [← Int.lt_add_one_iff, Int.ediv_lt_iff_lt_mul (by omega)]
    nlinarith

/-- What is read as a number is clamped to what fits. -/
theorem fits_integer (text : List Char) : Fits (Numeral.integer text).value := by
  unfold Numeral.integer
  rcases Numeral.splitSign text with ⟨negative, front⟩
  dsimp only
  split
  · exact fits_zero
  · next size rest _ =>
      generalize (if negative then -(size : Int) else size) = value
      split
      · exact (by decide : Fits Numeral.least)
      · next notLess =>
          split
          · exact (by decide : Fits Numeral.greatest)
          · next notGreater => exact ⟨Int.not_lt.mp notLess, Int.not_lt.mp notGreater⟩

/-! ### Evaluations -/

/-- A part that is no number too great for 64 bits. -/
def Token.Fits : Token → Prop
  | .number value => Arithmetic.Fits value
  | _ => True

/-- What is looked at and what was assigned fits. -/
structure State.Sound (state : State) : Prop where
  token : state.token.Fits
  assigned : ∀ entry ∈ state.assigned, Fits entry.2

/-- An evaluation brings only results with a property, and keeps states sound. -/
def Bounded {α : Type} (property : α → Prop) (evaluation : Evaluation α) : Prop :=
  ∀ state result after, state.Sound → evaluation.run state = .ok (result, after) →
    property result ∧ after.Sound

namespace Bounded

variable {α β : Type} {property : α → Prop} {final : β → Prop}

theorem pure {result : α} (holds : property result) :
    Bounded property (Pure.pure result : Evaluation α) := by
  intro state result after sound evaluated
  cases evaluated
  exact ⟨holds, sound⟩

theorem bind {evaluation : Evaluation α} {next : α → Evaluation β}
    (bounded : Bounded property evaluation)
    (further : ∀ result, property result → Bounded final (next result)) :
    Bounded final (evaluation >>= next) := by
  intro state result after sound evaluated
  rw [StateT.run_bind] at evaluated
  cases first : evaluation.run state with
  | error fault => simp [first, Bind.bind, Except.bind] at evaluated
  | ok reached =>
      rw [first] at evaluated
      rcases bounded state reached.1 reached.2 sound first with ⟨holds, sound⟩
      exact further reached.1 holds reached.2 result after sound evaluated

theorem refuse {message : String} : Bounded property (Arithmetic.refuse message) := by
  intro state result after _ evaluated
  cases evaluated

theorem ite {condition : Prop} [Decidable condition] {yes no : Evaluation α}
    (first : Bounded property yes) (second : Bounded property no) :
    Bounded property (if condition then yes else no) := by
  split
  · exact first
  · exact second

/-- What comes behind a check may rely on nothing but what came before it. -/
theorem check {condition : Prop} [Decidable condition] {message : String} {rest : Evaluation α}
    (bounded : Bounded property rest) :
    Bounded property (if condition then do
      let _ : Unit ← Arithmetic.refuse message
      rest
    else rest) := by
  have refused : Bounded (fun _ : Unit => True) (Arithmetic.refuse message) := refuse
  exact ite (refused.bind fun _ _ => bounded) bounded

end Bounded

theorem bounded_get : Bounded State.Sound (get : Evaluation State) := by
  intro state result after sound evaluated
  cases evaluated
  exact ⟨sound, sound⟩

theorem bounded_set {state : State} (kept : state.Sound) :
    Bounded (fun _ => True) (set state : Evaluation PUnit) := by
  intro before result after sound evaluated
  cases evaluated
  exact ⟨trivial, kept⟩

theorem bounded_modify {change : State → State}
    (keeps : ∀ state, state.Sound → (change state).Sound) :
    Bounded (fun _ => True) (modify change : Evaluation PUnit) := by
  intro state result after sound evaluated
  cases evaluated
  exact ⟨trivial, keeps state sound⟩

/-! ### Parts of evaluations -/

theorem fits_lex (text : List Char) : (lex text).1.Fits := by
  unfold lex
  dsimp only
  split
  · trivial
  · split
    · exact fits_integer _
    · split
      · trivial
      · split
        · trivial
        · trivial

theorem bounded_advance : Bounded (fun _ => True) advance :=
  bounded_modify fun state sound => { sound with token := fits_lex state.rest }

theorem bounded_operator : Bounded (fun _ => True) operator? := by
  refine bounded_get.bind fun state _ => ?_
  split
  · exact Bounded.pure trivial
  · exact Bounded.pure trivial

theorem fits_valueOf {text : String} {result : Int} (read : valueOf text = .ok result) :
    Fits result := by
  unfold valueOf at read
  dsimp only at read
  split at read
  · cases read
    exact fits_zero
  · split at read
    · cases read
      exact fits_integer _
    · cases read

theorem bounded_lookup (value : String → String) (name : String) :
    Bounded Fits (lookup value name) := by
  refine bounded_get.bind fun state sound => ?_
  split
  · next old found =>
      rcases List.lookup_eq_some_iff.mp found with ⟨front, behind, all, _⟩
      have member : (name, old) ∈ state.assigned := by
        rw [all]
        exact List.mem_append_right front List.mem_cons_self
      exact Bounded.pure (sound.assigned (name, old) member)
  · intro before result after sound evaluated
    cases read : valueOf (value name) with
    | error fault =>
        rw [read] at evaluated
        cases evaluated
    | ok result =>
        rw [read] at evaluated
        cases evaluated
        exact ⟨fits_valueOf read, sound⟩

theorem bounded_apply (operator : String) {first second : Int} (fits : Fits first)
    (fitsToo : Fits second) : Bounded Fits (apply operator first second) := by
  unfold apply
  split
  · exact Bounded.pure (fits_wrap _)
  · exact Bounded.ite Bounded.refuse (Bounded.pure (fits_wrap _))
  · exact Bounded.ite Bounded.refuse (Bounded.pure (fits_tmod fits _))
  · exact Bounded.pure (fits_wrap _)
  · exact Bounded.pure (fits_wrap _)
  · exact Bounded.pure (fits_word _)
  · exact Bounded.pure (fits_shiftRight fits _)
  · exact Bounded.pure (fits_truth _)
  · exact Bounded.pure (fits_truth _)
  · exact Bounded.pure (fits_truth _)
  · exact Bounded.pure (fits_truth _)
  · exact Bounded.pure (fits_truth _)
  · exact Bounded.pure (fits_truth _)
  · exact Bounded.pure (fits_word _)
  · exact Bounded.pure (fits_word _)
  · exact Bounded.pure (fits_word _)
  · exact Bounded.pure fitsToo

/-! ### Evaluating -/

section Steps

variable {value : String → String} {steps : Nat}
  (lower : ∀ grade skipped, Bounded Fits (evaluate value steps grade skipped))

include lower

theorem bounded_assignment (skipped : Bool) :
    Bounded Fits (evaluate value (steps + 1) .assignment skipped) := by
  unfold evaluate
  refine bounded_get.bind fun state sound => ?_
  split
  · next name _ =>
      refine bounded_advance.bind fun _ _ => bounded_operator.bind fun next _ => ?_
      split
      · next operator _ =>
          refine bounded_advance.bind fun _ _ => ?_
          refine (lower .assignment skipped).bind fun result fits => ?_
          have assign : ∀ {result}, Fits result → Bounded Fits (do
              modify fun state => { state with assigned := (name, result) :: state.assigned }
              return result) := by
            intro result fits
            refine (bounded_modify fun state sound => ?_).bind fun _ _ => Bounded.pure fits
            exact { sound with assigned := List.forall_mem_cons.mpr ⟨fits, sound.assigned⟩ }
          refine Bounded.ite (Bounded.pure fits) (Bounded.ite ?_ ?_)
          · exact (Bounded.pure fits).bind fun _ => assign
          · exact (bounded_lookup value name).bind fun _ old =>
              (bounded_apply operator old fits).bind fun _ => assign
      · exact (bounded_set sound).bind fun _ _ => lower .condition skipped
  · exact lower .condition skipped

theorem bounded_condition (skipped : Bool) :
    Bounded Fits (evaluate value (steps + 1) .condition skipped) := by
  unfold evaluate
  refine (lower _ skipped).bind fun test fits => bounded_operator.bind fun next _ => ?_
  refine Bounded.ite ?_ (Bounded.pure fits)
  refine bounded_advance.bind fun _ _ => (lower .assignment _).bind fun yes fitsYes =>
    bounded_operator.bind fun next _ => ?_
  refine Bounded.check ?_
  refine bounded_advance.bind fun _ _ => (lower .condition _).bind fun no fitsNo => ?_
  exact Bounded.pure (by split <;> assumption)

theorem bounded_primary (skipped : Bool) :
    Bounded Fits (evaluate value (steps + 1) .primary skipped) := by
  have behind : ∀ {change : Int → Int}, (∀ result, Fits result → Fits (change result)) →
      Bounded Fits (do
        advance
        let result ← evaluate value steps .primary skipped
        return change result) := fun kept =>
    bounded_advance.bind fun _ _ => (lower .primary skipped).bind fun result fits =>
      Bounded.pure (kept result fits)
  unfold evaluate
  refine bounded_get.bind fun state sound => ?_
  have token := sound.token
  split
  · refine bounded_advance.bind fun _ _ => (lower .assignment skipped).bind fun result fits =>
      bounded_operator.bind fun next _ => ?_
    exact Bounded.check (bounded_advance.bind fun _ _ => Bounded.pure fits)
  · exact bounded_advance.bind fun _ _ => lower .primary skipped
  · exact behind fun _ _ => fits_wrap _
  · exact behind fun _ _ => fits_truth _
  · exact behind fun _ fits => fits_complement fits
  · next number same =>
      rw [same] at token
      exact bounded_advance.bind fun _ _ => Bounded.pure token
  · exact bounded_advance.bind fun _ _ =>
      Bounded.ite (Bounded.pure fits_zero) (bounded_lookup value _)
  · exact Bounded.refuse

/-- The operators of a level are applied from the left. -/
theorem bounded_rounds
    (further : ∀ levels skipped first, Fits first →
      Bounded Fits (evaluate.rounds value steps levels skipped first))
    (levels : List (List String)) (skipped : Bool) {first : Int} (fits : Fits first) :
    Bounded Fits (evaluate.rounds value (steps + 1) levels skipped first) := by
  cases levels with
  | nil => exact Bounded.pure fits
  | cons level tighter =>
      unfold evaluate.rounds
      refine bounded_operator.bind fun next _ => ?_
      split
      · next operator =>
          refine Bounded.ite ?_ (Bounded.pure fits)
          refine bounded_advance.bind fun _ _ => (lower _ _).bind fun second fitsSecond => ?_
          refine Bounded.ite ?_ (Bounded.ite ?_ (Bounded.ite ?_ ?_))
          · exact (Bounded.pure (fits_truth _)).bind (further _ _)
          · exact (Bounded.pure (fits_truth _)).bind (further _ _)
          · exact (Bounded.pure fits_zero).bind (further _ _)
          · exact (bounded_apply operator fits fitsSecond).bind (further _ _)
      · exact Bounded.pure fits

end Steps

theorem bounded_evaluate (value : String → String) (steps : Nat) :
    (∀ grade skipped, Bounded Fits (evaluate value steps grade skipped)) ∧
    ∀ levels skipped first, Fits first →
      Bounded Fits (evaluate.rounds value steps levels skipped first) := by
  induction steps with
  | zero => exact ⟨fun _ _ => Bounded.refuse, fun _ _ _ fits => Bounded.pure fits⟩
  | succ steps ih =>
      rcases ih with ⟨lower, further⟩
      refine ⟨fun grade skipped => ?_,
        fun levels skipped _ => bounded_rounds lower further levels skipped⟩
      cases grade with
      | assignment => exact bounded_assignment lower skipped
      | condition => exact bounded_condition lower skipped
      | primary => exact bounded_primary lower skipped
      | binary levels =>
          cases levels with
          | nil => exact lower .primary skipped
          | cons level tighter =>
              exact (lower (.binary tighter) skipped).bind (further (level :: tighter) skipped)

/-- The value of an expression fits 64 bits, and so does every value that it assigns. -/
theorem run_fits (value : String → String) (text : String) {result : Int}
    {assigned : List (String × Int)} (evaluated : run value text = .ok (result, assigned)) :
    Fits result ∧ ∀ entry ∈ assigned, Fits entry.2 := by
  unfold run at evaluated
  rcases lexed : lex text.toList with ⟨token, rest⟩
  rw [lexed] at evaluated
  dsimp only at evaluated
  have start : State.Sound ⟨token, rest, []⟩ :=
    ⟨by simpa [lexed] using fits_lex text.toList, List.forall_mem_nil _⟩
  cases outcome :
    (evaluate value (20 * text.length + 40) .assignment false).run ⟨token, rest, []⟩ with
  | error fault =>
      rw [outcome] at evaluated
      cases evaluated
  | ok reached =>
      rw [outcome] at evaluated
      rcases (bounded_evaluate value _).1 _ _ _ reached.1 reached.2 start outcome with
        ⟨fits, sound⟩
      simp only [bind, Except.bind] at evaluated
      split at evaluated
      · cases evaluated
        exact ⟨fits, fun entry member => sound.assigned entry (List.mem_reverse.mp member)⟩
      · cases evaluated

end EntryTree.Command.Arithmetic
