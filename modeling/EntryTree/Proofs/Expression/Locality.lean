import EntryTree.Proofs.Expression.Reading

/-!
# Locality of primaries

A primary is given all the tokens that are left, and could look far ahead before it answers. The
primaries here do not: what they make of the tokens that they take is the same whatever comes after
these. For alternatives this is not enough. A primary that is tried after others answers only where
they mismatch, so a mismatch has to show at the first token, which the one that answers takes.
-/

namespace EntryTree

variable {β γ : Type}

theorem map_eq_ok {ε α α' : Type} {answer : Except ε α} {f : α → α'} {value : α'} :
    answer.map f = .ok value ↔ ∃ given, answer = .ok given ∧ f given = value := by
  cases answer <;> simp [Except.map]

theorem map_eq_error {ε α α' : Type} {answer : Except ε α} {f : α → α'} {error : ε} :
    answer.map f = .error error ↔ answer = .error error := by
  cases answer <;> simp [Except.map]

/-- What a table answers, the primary that goes by the first token has answered. -/
theorem PrimaryTable.primary_cases {table : PrimaryTable β} {tokens rest : List String}
    {meaning : β} (answered : table.primary tokens = .ok (meaning, rest)) :
    ∃ name after chosen, tokens = name :: after ∧ table.find? name = some chosen ∧
      chosen after = .ok (meaning, rest) := by
  cases tokens with
  | nil => contradiction
  | cons name after =>
      rw [PrimaryTable.primary] at answered
      split at answered
      · contradiction
      · next chosen found =>
          exact ⟨name, after, chosen, rfl, found, Expression.mapError_eq_ok.mp answered⟩

namespace Primary

variable {primary other : Primary β}

/-- What a primary makes of the tokens that it takes does not depend on the tokens after them. -/
def Local (primary : Primary β) : Prop :=
  ∀ ⦃tokens meaning rest⦄, primary tokens = .ok (meaning, rest) →
    ∃ words, tokens = words ++ rest ∧ ∀ other, primary (words ++ other) = .ok (meaning, other)

/-- A local primary that mismatches whatever tokens come, or never. -/
structure Settled (primary : Primary β) : Prop where
  isLocal : primary.Local
  mismatch : ∀ ⦃tokens error⦄, primary tokens = .error error → error.isMismatch = true →
    ∀ other, ∃ error, primary other = .error error ∧ error.isMismatch = true

/-- A primary takes a token at least, and is settled once it has seen the first one. -/
structure Headed (primary : Primary β) : Prop where
  fails : ∀ answer, primary [] ≠ .ok answer
  settled : ∀ token, Settled fun rest => primary (token :: rest)

theorem Local.leavesSuffix (isLocal : primary.Local) : primary.LeavesSuffix := by
  intro tokens meaning rest answered
  rcases isLocal answered with ⟨words, rfl, _⟩
  exact List.suffix_append words rest

theorem Headed.isLocal (headed : primary.Headed) : primary.Local := by
  intro tokens meaning rest answered
  cases tokens with
  | nil => exact absurd answered (headed.fails _)
  | cons token after =>
      rcases (headed.settled token).isLocal answered with ⟨words, rfl, unchanged⟩
      exact ⟨token :: words, rfl, unchanged⟩

/-- A primary that takes no token and looks at none is settled. -/
theorem settled_of_constant
    (constant : ∀ tokens, primary tokens = (primary []).map fun (meaning, _) => (meaning, tokens)) :
    primary.Settled where
  isLocal tokens meaning rest answered := by
    rw [constant, map_eq_ok] at answered
    rcases answered with ⟨⟨_, _⟩, answered, same⟩
    rcases Prod.mk.inj same with ⟨rfl, rfl⟩
    refine ⟨[], rfl, fun other => ?_⟩
    rw [constant, answered]
    rfl
  mismatch tokens error failed mismatches other := by
    rw [constant, map_eq_error] at failed
    refine ⟨error, ?_, mismatches⟩
    rw [constant, failed]
    rfl

theorem Settled.map (settled : primary.Settled) (f : β → γ) : (primary.map f).Settled where
  isLocal tokens meaning rest answered := by
    rw [Primary.map, map_eq_ok] at answered
    rcases answered with ⟨⟨_, _⟩, answered, same⟩
    rcases Prod.mk.inj same with ⟨rfl, rfl⟩
    rcases settled.isLocal answered with ⟨words, split, unchanged⟩
    refine ⟨words, split, fun other => ?_⟩
    rw [Primary.map, unchanged]
    rfl
  mismatch tokens error failed mismatches other := by
    rw [Primary.map, map_eq_error] at failed
    rcases settled.mismatch failed mismatches other with ⟨fault, failed, mismatches⟩
    refine ⟨fault, ?_, mismatches⟩
    rw [Primary.map, failed]
    rfl

theorem Headed.map (headed : primary.Headed) (f : β → γ) : (primary.map f).Headed where
  fails answer answered := by
    rcases map_eq_ok.mp answered with ⟨given, answered, _⟩
    exact headed.fails given answered
  settled token := (headed.settled token).map f

/-- A primary that is tried only where another one mismatches is tried whatever tokens come, or
never. -/
theorem Settled.orElse (settled : primary.Settled) (otherwise : other.Settled) :
    Settled fun tokens =>
      match primary tokens with
      | .ok result => .ok result
      | .error error => if error.isMismatch then other tokens else .error error where
  isLocal tokens meaning rest answered := by
    dsimp only at answered ⊢
    split at answered
    · next result first =>
        rcases Except.ok.inj answered with rfl
        rcases settled.isLocal first with ⟨words, split, unchanged⟩
        refine ⟨words, split, fun other => ?_⟩
        rw [unchanged]
    · next error first =>
        split at answered
        · next mismatches =>
            rcases otherwise.isLocal answered with ⟨words, rfl, unchanged⟩
            refine ⟨words, rfl, fun others => ?_⟩
            -- With other tokens behind, the first primary has to mismatch again.
            rcases settled.mismatch first mismatches (words ++ others) with
              ⟨fault, failed, mismatches⟩
            simp only [failed, mismatches, if_true, unchanged]
        · contradiction
  mismatch tokens error failed mismatches others := by
    split at failed
    · contradiction
    · next fault first =>
        split at failed
        · next mismatched =>
            rcases settled.mismatch first mismatched others with ⟨fault, again, mismatched⟩
            simp only [again, mismatched, if_true]
            exact otherwise.mismatch failed mismatches others
        · next decided =>
            rcases Except.error.inj failed with rfl
            contradiction

theorem headed_firstOf (expected : String) {primaries : List (Primary β)}
    (headed : ∀ primary ∈ primaries, primary.Headed) : (firstOf expected primaries).Headed := by
  induction primaries with
  | nil =>
      refine ⟨by simp [firstOf], fun token => settled_of_constant fun tokens => ?_⟩
      simp [firstOf, Except.map]
  | cons primary others ih =>
      rw [List.forall_mem_cons] at headed
      rcases headed with ⟨headed, headedOthers⟩
      have otherwise := ih headedOthers
      constructor
      · intro answer answered
        rw [firstOf] at answered
        split at answered
        · next result first => exact headed.fails _ first
        · split at answered
          · exact otherwise.fails _ answered
          · contradiction
      · intro token
        simp only [firstOf]
        exact (headed.settled token).orElse (otherwise.settled token)

end Primary

/-- A table is local if what it chooses from is, for it chooses by a token that it takes. -/
theorem PrimaryTable.isLocal_primary {table : PrimaryTable β}
    (isLocal : ∀ name chosen, table.find? name = some chosen → chosen.Local) :
    table.primary.Local := by
  intro tokens meaning rest answered
  rcases table.primary_cases answered with ⟨name, after, chosen, rfl, found, answered⟩
  rcases isLocal name chosen found answered with ⟨words, rfl, unchanged⟩
  refine ⟨name :: words, rfl, fun other => ?_⟩
  simp only [List.cons_append, PrimaryTable.primary, found, unchanged]
  rfl

end EntryTree
