import EntryTree.Proofs.Time.Exactness

/-!
# Spans in a row

Spans that are written one after another are read as their sum. A text that spells components does
so with any blanks around it, and a component ends where the next one may start, so the components
of two texts in a row are the ones of the first text and then the ones of the second.
-/

namespace EntryTree.Span

open Text

variable {components others : List Component} {text rest blanks : List Char}

/-! ## Blanks around components -/

theorem Spelled.append (spelled : Spelled components text) (behind : Spelled others rest) :
    Spelled (components ++ others) (text ++ rest) := by
  induction spelled with
  | nil blank => exact behind.blank_append blank
  | cons first _ ih =>
      rw [List.append_assoc]
      exact .cons first ih

theorem Spelled.append_blank (spelled : Spelled components text) (blank : Blank blanks) :
    Spelled components (text ++ blanks) := by
  simpa using spelled.append (.nil blank)

theorem Spelled.of_trimFront (spelled : Spelled components text) :
    Spelled components (Text.trimFront text) := by
  cases spelled with
  | nil blank =>
      have empty : Text.trimFront text = [] := List.dropWhile_eq_nil_iff.mpr blank
      rw [empty]
      exact .nil (List.forall_mem_nil _)
  | cons first behind =>
      rcases first.trimFront with ⟨bare, spelled, trimmed⟩
      rw [trimmed]
      exact .cons spelled behind

theorem ends_of_mem_units {name : List Char} {scale : Nat} (unit : (name, scale) ∈ units) :
    ∃ letters c, name = letters ++ [c] ∧ isBlank c = false := by
  have visible : ∀ pair ∈ units, ∀ c ∈ pair.1, isBlank c = false := by simp [units, isBlank]
  rcases name.eq_nil_or_concat' with rfl | ⟨letters, c, rfl⟩
  · rcases starts_of_mem_units unit with ⟨c, rest, empty, _⟩
    simp at empty
  · have member : c ∈ letters ++ [c] := List.mem_append_right letters List.mem_cons_self
    exact ⟨letters, c, rfl, visible (letters ++ [c], scale) unit c member⟩

/-- A component ends with its unit, and so not with a blank. -/
theorem Component.Spelled.eq_nil_of_blank {component : Component} {behind : List Char}
    (spelled : component.Spelled (text ++ behind)) (blank : Blank behind) : behind = [] := by
  generalize whole : text ++ behind = full at spelled
  cases spelled with
  | intro front numeral between unit =>
      rcases ends_of_mem_units unit with ⟨letters, c, rfl, visible⟩
      rcases behind.eq_nil_or_concat' with rfl | ⟨before, d, rfl⟩
      · rfl
      · simp only [← List.append_assoc] at whole
        rcases List.append_inj' whole rfl with ⟨_, last⟩
        rcases List.cons.inj last with ⟨rfl, _⟩
        have hidden : isBlank d = true := by
          apply blank
          simp
        rw [hidden] at visible
        contradiction

theorem Spelled.of_append_blank (spelled : Spelled components (text ++ blanks))
    (blank : Blank blanks) : Spelled components text := by
  generalize whole : text ++ blanks = full at spelled
  induction spelled generalizing text with
  | nil all =>
      apply Spelled.nil
      intro c member
      apply all
      rw [← whole]
      exact List.mem_append_left blanks member
  | cons first behind ih =>
      rcases List.append_eq_append_iff.mp whole with
        ⟨middle, rfl, rfl⟩ | ⟨middle, rfl, left⟩
      · -- The blanks begin behind the first component, and there is no other one.
        have nothing : middle = [] := by
          apply first.eq_nil_of_blank
          intro c member
          exact blank c (List.mem_append_left _ member)
        have none := behind.unique (.nil fun c member => blank c (List.mem_append_right _ member))
        rw [none]
        subst middle
        rw [List.append_nil] at first
        simpa using Spelled.cons first (.nil (List.forall_mem_nil _))
      · exact .cons first (ih left.symm)

theorem spelled_trim_iff : Spelled components (trim text) ↔ Spelled components text := by
  rcases exists_trim_append_blank text with ⟨back, backBlank, trimmed⟩
  constructor
  · intro spelled
    rcases exists_blank_append_trimFront text with ⟨front, frontBlank, split⟩
    rw [split, trimmed]
    exact (spelled.append_blank backBlank).blank_append frontBlank
  · intro spelled
    apply Spelled.of_append_blank _ backBlank
    rw [← trimmed]
    exact spelled.of_trimFront

/-! ## Sums -/

theorem addComponents_append (sum : Nat) (components others : List Component) :
    addComponents sum (components ++ others) =
      (addComponents sum components).bind (addComponents · others) := by
  induction components generalizing sum with
  | nil => rfl
  | cons component components ih =>
      simp only [List.cons_append, addComponents]
      split
      · rfl
      · split
        · rfl
        · exact ih _

/-- What components add to a sum does not depend on the sum, as long as it fits. -/
theorem addComponents_add {sum total more : Nat} (read : addComponents sum components = .ok total)
    (fits : total + more < wideBound) :
    sum ≤ total ∧ addComponents (sum + more) components = .ok (total + more) := by
  induction components generalizing sum with
  | nil =>
      simp only [addComponents, Except.ok.injEq] at read ⊢
      omega
  | cons component components ih =>
      simp only [addComponents] at read ⊢
      split at read
      · contradiction
      · next nanos counted =>
          split at read
          · contradiction
          · rcases ih read with ⟨larger, others⟩
            rw [if_neg (by omega), Nat.add_right_comm]
            exact ⟨by omega, others⟩

theorem addComponents_of_parse {text : String} {span : Span} (visible : trim text.toList ≠ ['0'])
    (read : parse text = .ok span) :
    ∃ components, components ≠ [] ∧ Spelled components text.toList ∧
      addComponents 0 components = .ok span.nanos ∧ span.nanos < bound := by
  rcases spelled_of_parse read with ⟨zero, _⟩ | ⟨components, present, spelled⟩
  · contradiction
  · refine ⟨components, present, spelled_trim_iff.mp spelled, ?_⟩
    rw [parse_of_spelled spelled present] at read
    split at read
    · contradiction
    · next nanos sum =>
        split at read
        · next small =>
            rcases Except.ok.inj read with rfl
            exact ⟨sum, small⟩
        · contradiction

/-! ## Texts in a row -/

theorem parse_of_spelled_append {text : String} {left right : Nat} (present : components ≠ [])
    (spelled : Spelled (components ++ others) text.toList)
    (sum : addComponents 0 components = .ok left) (sumOthers : addComponents 0 others = .ok right)
    (small : left < bound) (smallOthers : right < bound) :
    parse text =
      if left + right < bound then .ok ⟨left + right⟩ else .error Refusal.tooLarge := by
  have wide : bound + bound ≤ wideBound := by decide
  have fits : right + left < wideBound := by omega
  have together := (addComponents_add sumOthers fits).2
  rw [Nat.zero_add, Nat.add_comm] at together
  rw [parse_of_spelled (spelled_trim_iff.mpr spelled) (by simp [present]),
    addComponents_append, sum]
  simp only [Except.bind, together]

/-- Spans in a row, with any blanks between and around them, are read as their sum if a span can
hold it, and refused otherwise. Their order does not matter. -/
theorem parse_append {first second : String} {left right : Span}
    (visible : trim first.toList ≠ ['0']) (visibleSecond : trim second.toList ≠ ['0'])
    (read : parse first = .ok left) (readSecond : parse second = .ok right) :
    (∀ before between behind : String, Blank before.toList → Blank between.toList →
      Blank behind.toList →
        parse (before ++ first ++ between ++ second ++ behind) =
          if left.nanos + right.nanos < bound then .ok ⟨left.nanos + right.nanos⟩
          else .error Refusal.tooLarge) ∧
    parse (first ++ second) = parse (second ++ first) := by
  rcases addComponents_of_parse visible read with ⟨components, present, spelled, sum, small⟩
  rcases addComponents_of_parse visibleSecond readSecond with
    ⟨others, presentOthers, spelledOthers, sumOthers, smallOthers⟩
  constructor
  · intro before between behind blankBefore blankBetween blankBehind
    apply parse_of_spelled_append present _ sum sumOthers small smallOthers
    simp only [String.toList_append]
    apply Spelled.append_blank _ blankBehind
    apply Spelled.append _ spelledOthers
    apply Spelled.append_blank _ blankBetween
    exact spelled.blank_append blankBefore
  · have forwards : Spelled (components ++ others) (first ++ second).toList := by
      simpa only [String.toList_append] using spelled.append spelledOthers
    have backwards : Spelled (others ++ components) (second ++ first).toList := by
      simpa only [String.toList_append] using spelledOthers.append spelled
    rw [parse_of_spelled_append present forwards sum sumOthers small smallOthers,
      parse_of_spelled_append presentOthers backwards sumOthers sum smallOthers small,
      Nat.add_comm]

theorem parse_append_weeks :
    parse "1h" = .ok ⟨3600000000000⟩ ∧ parse "30000w" = .ok ⟨18144000000000000000⟩ ∧
      parse "\t1h 1h" = .ok ⟨7200000000000⟩ ∧
      parse "30000w 30000w" = .error Refusal.tooLarge ∧
      parse ("1h" ++ "30000w") = parse ("30000w" ++ "1h") := by
  have hour : parse "1h" = .ok ⟨3600000000000⟩ := by decide +kernel
  have weeks : parse "30000w" = .ok ⟨18144000000000000000⟩ := by decide +kernel
  have visible : trim "1h".toList ≠ ['0'] := by decide
  have visibleWeeks : trim "30000w".toList ≠ ['0'] := by decide
  have none : Blank "".toList := by simp [Blank]
  have space : Blank " ".toList := by simp [Blank, isBlank]
  have tabulator : Blank "\t".toList := by simp [Blank, isBlank]
  refine ⟨hour, weeks, ?_, ?_, (parse_append visible visibleWeeks hour weeks).2⟩
  · exact (parse_append visible visible hour hour).1 "\t" " " "" tabulator space none
  · exact (parse_append visibleWeeks visibleWeeks weeks weeks).1 "" " " "" none space none

end EntryTree.Span
