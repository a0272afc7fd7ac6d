import EntryTree.Proofs.Predicate.ShortCircuit

/-!
# Flat chains

A conjunction takes over the operands of the conjunctions that it is built from, and a disjunction
those of disjunctions. So what is kept of a formula is in a normal form: a chain has two operands at
least, none of them is a chain of the same kind, and the atomic predicates stand in the order in
which they were written. How a chain was parenthesised is forgotten, because chains are combined by
appending what each operand contributes to them.
-/

namespace EntryTree

variable {m : Type → Type} {α ι : Type}

namespace Predicate

variable {predicate left right : Predicate m α} {operands : List (Predicate m α)}

/-- The predicate is a conjunction, whatever its operands are. -/
inductive IsAll : Predicate m α → Prop
  | all (operands : List (Predicate m α)) : IsAll (.all operands)

/-- The predicate is a disjunction, whatever its operands are. -/
inductive IsAny : Predicate m α → Prop
  | any (operands : List (Predicate m α)) : IsAny (.any operands)

/-- The normal form: at every level a chain has two operands at least, and none of them is a chain
of the same kind. -/
inductive Flat : Predicate m α → Prop
  | atomic (test : α → m Bool) : Flat (.atomic test)
  | all {operands : List (Predicate m α)} (several : 2 ≤ operands.length)
      (unlike : ∀ operand ∈ operands, ¬operand.IsAll)
      (flat : ∀ operand ∈ operands, operand.Flat) : Flat (.all operands)
  | any {operands : List (Predicate m α)} (several : 2 ≤ operands.length)
      (unlike : ∀ operand ∈ operands, ¬operand.IsAny)
      (flat : ∀ operand ∈ operands, operand.Flat) : Flat (.any operands)
  | not {operand : Predicate m α} (flat : operand.Flat) : Flat (.not operand)

mutual

/-- The atomic predicates in a predicate, from left to right. -/
def atoms : Predicate m α → List (Predicate m α)
  | .atomic test => [.atomic test]
  | .all operands => atomsOf operands
  | .any operands => atomsOf operands
  | .not operand => operand.atoms

/-- The atomic predicates in operands, from left to right. -/
def atomsOf : List (Predicate m α) → List (Predicate m α)
  | [] => []
  | operand :: operands => operand.atoms ++ atomsOf operands

end

/-! ## What an operand contributes to a chain -/

/-- Operands that can be a part of a chain, other parts of which are still to come. -/
structure Links (ofKind : Predicate m α → Prop) (operands : List (Predicate m α)) : Prop where
  present : 1 ≤ operands.length
  unlike : ∀ operand ∈ operands, ¬ofKind operand
  flat : ∀ operand ∈ operands, operand.Flat

theorem links_singleton {ofKind : Predicate m α → Prop} (unlike : ¬ofKind predicate)
    (flat : predicate.Flat) : Links ofKind [predicate] where
  present := Nat.le_refl 1
  unlike := by simpa using unlike
  flat := by simpa using flat

theorem Flat.conjuncts (flat : predicate.Flat) : Links IsAll predicate.conjuncts := by
  cases predicate with
  | all operands =>
      cases flat with
      | all several unlike flat => exact ⟨Nat.le_of_succ_le several, unlike, flat⟩
  | atomic | any | not => exact links_singleton (by rintro ⟨⟩) flat

theorem Flat.disjuncts (flat : predicate.Flat) : Links IsAny predicate.disjuncts := by
  cases predicate with
  | any operands =>
      cases flat with
      | any several unlike flat => exact ⟨Nat.le_of_succ_le several, unlike, flat⟩
  | atomic | all | not => exact links_singleton (by rintro ⟨⟩) flat

theorem Links.two_le_length_append {ofKind : Predicate m α → Prop} {others : List (Predicate m α)}
    (first : Links ofKind operands) (second : Links ofKind others) :
    2 ≤ (operands ++ others).length := by
  rw [List.length_append]
  exact Nat.add_le_add first.present second.present

theorem Flat.and (first : left.Flat) (second : right.Flat) : (left.and right).Flat := by
  have before := first.conjuncts
  have behind := second.conjuncts
  apply Flat.all
  · exact before.two_le_length_append behind
  · exact List.forall_mem_append.mpr ⟨before.unlike, behind.unlike⟩
  · exact List.forall_mem_append.mpr ⟨before.flat, behind.flat⟩

theorem Flat.or (first : left.Flat) (second : right.Flat) : (left.or right).Flat := by
  have before := first.disjuncts
  have behind := second.disjuncts
  apply Flat.any
  · exact before.two_le_length_append behind
  · exact List.forall_mem_append.mpr ⟨before.unlike, behind.unlike⟩
  · exact List.forall_mem_append.mpr ⟨before.flat, behind.flat⟩

/-! ## Atomic predicates in order -/

theorem atomsOf_append (first second : List (Predicate m α)) :
    atomsOf (first ++ second) = atomsOf first ++ atomsOf second := by
  induction first with
  | nil => rfl
  | cons operand operands ih => rw [List.cons_append, atomsOf, atomsOf, ih, List.append_assoc]

theorem atomsOf_singleton (predicate : Predicate m α) : atomsOf [predicate] = predicate.atoms := by
  rw [atomsOf, atomsOf, List.append_nil]

theorem atomsOf_conjuncts (predicate : Predicate m α) :
    atomsOf predicate.conjuncts = predicate.atoms := by
  cases predicate with
  | all operands => rw [conjuncts, atoms]
  | atomic | any | not => exact atomsOf_singleton _

theorem atomsOf_disjuncts (predicate : Predicate m α) :
    atomsOf predicate.disjuncts = predicate.atoms := by
  cases predicate with
  | any operands => rw [disjuncts, atoms]
  | atomic | all | not => exact atomsOf_singleton _

theorem atoms_and (left right : Predicate m α) :
    (left.and right).atoms = left.atoms ++ right.atoms := by
  rw [and, atoms, atomsOf_append, atomsOf_conjuncts, atomsOf_conjuncts]

theorem atoms_or (left right : Predicate m α) :
    (left.or right).atoms = left.atoms ++ right.atoms := by
  rw [or, atoms, atomsOf_append, atomsOf_disjuncts, atomsOf_disjuncts]

/-! ## Chains of three -/

theorem and_assoc (first second third : Predicate m α) :
    (first.and second).and third = first.and (second.and third) := by
  simp only [and, conjuncts, List.append_assoc]

theorem or_assoc (first second third : Predicate m α) :
    (first.or second).or third = first.or (second.or third) := by
  simp only [or, disjuncts, List.append_assoc]

end Predicate

namespace Formula

/-- The atomic parts of a formula in written order. What is lifted is one part, and a copy has the
parts of its original. -/
def atoms : {α : Type} → Formula ι α → List (Formula ι α)
  | _, .atomic label test => [.atomic label test]
  | _, .always answer => [.always answer]
  | _, .and left right => left.atoms ++ right.atoms
  | _, .or left right => left.atoms ++ right.atoms
  | _, .not operand => operand.atoms
  | _, .copy original => original.atoms
  | _, .lift inner project => [.lift inner project]

/-- Two formulas differ only in how chains of one connective are parenthesised, at any depth. A copy
counts as its original. -/
inductive Regroups : {α : Type} → Formula ι α → Formula ι α → Prop
  | refl {α : Type} (formula : Formula ι α) : Regroups formula formula
  | symm {α : Type} {first second : Formula ι α} (regroups : Regroups first second) :
      Regroups second first
  | trans {α : Type} {first second third : Formula ι α} (one : Regroups first second)
      (other : Regroups second third) : Regroups first third
  | conjunction {α : Type} (first second third : Formula ι α) :
      Regroups (.and (.and first second) third) (.and first (.and second third))
  | disjunction {α : Type} (first second third : Formula ι α) :
      Regroups (.or (.or first second) third) (.or first (.or second third))
  | original {α : Type} (original : Formula ι α) : Regroups (.copy original) original
  | and {α : Type} {left left' right right' : Formula ι α} (one : Regroups left left')
      (other : Regroups right right') : Regroups (.and left right) (.and left' right')
  | or {α : Type} {left left' right right' : Formula ι α} (one : Regroups left left')
      (other : Regroups right right') : Regroups (.or left right) (.or left' right')
  | not {α : Type} {operand operand' : Formula ι α} (within : Regroups operand operand') :
      Regroups (.not operand) (.not operand')
  | lift {α β : Type} {inner inner' : Formula ι α} (within : Regroups inner inner')
      (project : β → Option α) : Regroups (.lift inner project) (.lift inner' project)

variable [Monad m]

theorem flat_predicate (observe : ι → m Unit) (formula : Formula ι α) :
    (formula.predicate observe).Flat := by
  induction formula with
  | atomic label test => exact .atomic _
  | always answer => exact .atomic _
  | and left right ihLeft ihRight => exact ihLeft.and ihRight
  | or left right ihLeft ihRight => exact ihLeft.or ihRight
  | not operand ih => exact .not ih
  | copy original ih => exact ih
  | lift inner project ih => exact .atomic _

theorem atoms_predicate (observe : ι → m Unit) (formula : Formula ι α) :
    (formula.predicate observe).atoms = formula.atoms.map (·.predicate observe) := by
  induction formula with
  | atomic label test => rfl
  | always answer => rfl
  | and left right ihLeft ihRight =>
      rw [predicate, Predicate.atoms_and, ihLeft, ihRight, atoms, List.map_append]
  | or left right ihLeft ihRight =>
      rw [predicate, Predicate.atoms_or, ihLeft, ihRight, atoms, List.map_append]
  | not operand ih => exact ih
  | copy original ih => exact ih
  | lift inner project ih => rfl

theorem Regroups.predicate_eq {first second : Formula ι α} (regroups : Regroups first second)
    (observe : ι → m Unit) : first.predicate observe = second.predicate observe := by
  induction regroups with
  | refl formula => rfl
  | symm regroups ih => exact ih.symm
  | trans one other ihOne ihOther => exact ihOne.trans ihOther
  | conjunction first second third => exact Predicate.and_assoc _ _ _
  | disjunction first second third => exact Predicate.or_assoc _ _ _
  | original original => rfl
  | and one other ihOne ihOther => simp only [predicate, ihOne, ihOther]
  | or one other ihOne ihOther => simp only [predicate, ihOne, ihOther]
  | not within ih => simp only [predicate, ih]
  | lift within project ih => simp only [predicate, ih]

/-- What is kept of a formula is flat, with its atomic parts in written order, and is the same for
all formulas that differ only in how their chains are parenthesised. -/
theorem predicate_normal (observe : ι → m Unit) :
    (∀ formula : Formula ι α,
      (formula.predicate observe).Flat ∧
      (formula.predicate observe).atoms = formula.atoms.map (·.predicate observe)) ∧
    ∀ first second : Formula ι α, Regroups first second →
      first.predicate observe = second.predicate observe := by
  constructor
  · intro formula
    exact ⟨flat_predicate observe formula, atoms_predicate observe formula⟩
  · intro first second regroups
    exact regroups.predicate_eq observe

/-- Three tests under a negation, two of them grouped in a copy. -/
theorem predicate_normal_threefold :
    let even : Formula String Int := .atomic "even" fun value => value % 2 == 0
    let positive : Formula String Int := .atomic "positive" fun value => decide (0 < value)
    let small : Formula String Int := .atomic "small" fun value => decide (value < 10)
    let grouped : Formula String Int := .not (.and (.copy (.and even positive)) small)
    let written : Formula String Int := .not (.and even (.and positive small))
    Regroups grouped written ∧ grouped.plain = written.plain ∧ grouped.plain.Flat ∧
      grouped.plain.atoms = [even.plain, positive.plain, small.plain] ∧
      grouped.plain.shape = "Not(All([Atomic, Atomic, Atomic]))" := by
  intro even positive small grouped written
  let observe : String → Id Unit := fun _ => pure ()
  have regroups : Regroups grouped written :=
    .not (.trans (.and (.original (.and even positive)) (.refl small))
      (.conjunction even positive small))
  rcases (predicate_normal observe).1 grouped with ⟨flat, atoms⟩
  exact ⟨regroups, (predicate_normal observe).2 grouped written regroups, flat, atoms, rfl⟩

end Formula
end EntryTree
