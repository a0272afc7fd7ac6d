import EntryTree.Proofs.Text.Characters
import EntryTree.Time.SpanNotation
import Mathlib.Data.List.Basic

/-!
# How spans are spelled

A span is spelled by components, one after another, with blanks before, between and behind them.
This file gives the spelling as a relation between components and texts, apart from the reader. The
main statements, `sumComponents_of_spelled` and `spelled_of_sumComponents`, say that the reader adds
up just the components by which a text is spelled, and refuses a text that is not spelled by any.

The reader takes as many digits as there are and the first unit that fits. That is no restriction:
a unit never starts as a number goes on, and where a minute might be the beginning of a millisecond,
what is left of the millisecond cannot start a component.
-/

namespace EntryTree.Span

open Text

/-- A text writes a number with these digits before and behind the point. Digits are missing on one
side at most, and there is a point unless they are missing behind it. -/
inductive Numeral : List Char → List Char → List Char → Prop
  | plain {whole : List Char} (present : whole ≠ []) (digits : Digits whole) :
      Numeral whole [] whole
  | pointed {whole fraction : List Char} (present : whole ≠ [] ∨ fraction ≠ [])
      (before : Digits whole) (behind : Digits fraction) :
      Numeral whole fraction (whole ++ '.' :: fraction)

/-- A text spells a component: a number and a unit behind it, with blanks before each. -/
inductive Component.Spelled : Component → List Char → Prop
  | intro {whole fraction number name blanks gap : List Char} {scale : Nat} (front : Blank blanks)
      (numeral : Numeral whole fraction number) (between : Blank gap)
      (unit : (name, scale) ∈ units) :
      Spelled ⟨whole, fraction, scale⟩ (blanks ++ (number ++ (gap ++ name)))

/-- A text is spelled by components, one after another. There may be blanks behind them. -/
inductive Spelled : List Component → List Char → Prop
  | nil {blanks : List Char} (blank : Blank blanks) : Spelled [] blanks
  | cons {component : Component} {components : List Component} {text rest : List Char}
      (first : component.Spelled text) (others : Spelled components rest) :
      Spelled (component :: components) (text ++ rest)

/-- What does not go on with the digits of a number. -/
def Ends (rest : List Char) : Prop :=
  ∀ c ∈ rest.head?, isDecimalDigit c = false ∧ c ≠ '.'

/-- What may follow upon a component. -/
def Opens (rest : List Char) : Prop :=
  ∀ c ∈ rest.head?, isBlank c = true ∨ isDecimalDigit c = true ∨ c = '.'

/-! ## Numbers -/

theorem Ends.takeWhile {rest : List Char} (ends : Ends rest) :
    rest.takeWhile isDecimalDigit = [] ∧ rest.dropWhile isDecimalDigit = rest :=
  scan_of_head fun c head => (ends c head).1

theorem number?_of_numeral {whole fraction number rest : List Char}
    (numeral : Numeral whole fraction number) (ends : Ends rest) :
    number? (number ++ rest) = some (whole, fraction, rest) := by
  rcases ends.takeWhile with ⟨taken, dropped⟩
  cases numeral with
  | plain present digits =>
      simp only [number?, List.takeWhile_append_of_pos digits, List.dropWhile_append_of_pos digits,
        taken, dropped, List.append_nil]
      split
      · exact absurd rfl (ends '.' rfl).2
      · simp [present]
  | pointed present before behind =>
      have point : isDecimalDigit '.' = false := by decide
      have written : (whole.isEmpty && fraction.isEmpty) = false := by
        rw [Bool.and_eq_false_iff, List.isEmpty_eq_false_iff, List.isEmpty_eq_false_iff]
        exact present
      simp [number?, List.takeWhile_append_of_pos before, List.dropWhile_append_of_pos before,
        List.takeWhile_append_of_pos behind, List.dropWhile_append_of_pos behind, point, taken,
        dropped, written]

theorem numeral_of_number? {text whole fraction rest : List Char}
    (read : number? text = some (whole, fraction, rest)) :
    ∃ number, Numeral whole fraction number ∧ text = number ++ rest := by
  have parts : text.takeWhile isDecimalDigit ++ text.dropWhile isDecimalDigit = text :=
    List.takeWhile_append_dropWhile
  have before : Digits (text.takeWhile isDecimalDigit) := fun c member =>
    List.mem_takeWhile_imp member
  simp only [number?] at read
  split at read
  · next after point =>
      split at read
      · cases read
      · next written =>
          have behind : Digits (after.takeWhile isDecimalDigit) := fun c member =>
            List.mem_takeWhile_imp member
          have present : text.takeWhile isDecimalDigit ≠ [] ∨
              after.takeWhile isDecimalDigit ≠ [] := by
            rwa [Bool.not_eq_true, Bool.and_eq_false_iff, List.isEmpty_eq_false_iff,
              List.isEmpty_eq_false_iff] at written
          cases read
          refine ⟨_, .pointed present before behind, ?_⟩
          rw [List.append_assoc, List.cons_append, List.takeWhile_append_dropWhile, ← point, parts]
  · split at read
    · cases read
    · next written =>
        have present : text.takeWhile isDecimalDigit ≠ [] := by simpa using written
        cases read
        exact ⟨_, .plain present before, parts.symm⟩

/-- A number starts with a digit or a point, and so not with a blank. -/
theorem Numeral.starts {whole fraction number : List Char}
    (numeral : Numeral whole fraction number) :
    ∃ c rest, number = c :: rest ∧ (isDecimalDigit c = true ∨ c = '.') ∧ isBlank c = false := by
  have point : isBlank '.' = false := by decide
  cases numeral with
  | plain present digits =>
      cases whole with
      | nil => contradiction
      | cons c rest =>
          have digit := digits c List.mem_cons_self
          exact ⟨c, rest, rfl, .inl digit, isBlank_of_isDecimalDigit digit⟩
  | pointed present before behind =>
      cases whole with
      | nil => exact ⟨'.', fraction, rfl, .inr rfl, point⟩
      | cons c rest =>
          have digit := before c List.mem_cons_self
          exact ⟨c, rest ++ '.' :: fraction, rfl, .inl digit, isBlank_of_isDecimalDigit digit⟩

/-! ## Units and components -/

theorem scale_pos {name : List Char} {scale : Nat} (unit : (name, scale) ∈ units) : 0 < scale := by
  have positive : ∀ pair ∈ units, 0 < pair.2 := by decide
  exact positive _ unit

theorem starts_of_mem_units {name : List Char} {scale : Nat} (unit : (name, scale) ∈ units) :
    ∃ c rest, name = c :: rest ∧ isBlank c = false ∧ isDecimalDigit c = false ∧ c ≠ '.' := by
  have present : ∀ pair ∈ units, pair.1 ≠ [] := by decide
  have starts : ∀ pair ∈ units,
      isBlank (pair.1.headD ' ') = false ∧ isDecimalDigit (pair.1.headD ' ') = false ∧
        pair.1.headD ' ' ≠ '.' := by decide
  cases name with
  | nil => exact absurd rfl (present _ unit)
  | cons c rest => exact ⟨c, rest, rfl, starts (c :: rest, scale) unit⟩

/-- Nothing that may follow upon a component completes a minute to a millisecond. -/
theorem Opens.ne_second {rest : List Char} (opens : Opens ('s' :: rest)) : False := by
  have other : isBlank 's' = false ∧ isDecimalDigit 's' = false ∧ 's' ≠ '.' := by decide
  rcases opens 's' rfl with blank | digit | point
  · exact absurd (blank.symm.trans other.1) (by decide)
  · exact absurd (digit.symm.trans other.2.1) (by decide)
  · exact other.2.2 point

theorem unit?_of_mem_units {name rest : List Char} {scale : Nat} (unit : (name, scale) ∈ units)
    (opens : Opens rest) : unit? (name ++ rest) = some (scale, rest) := by
  -- Only the minute is the beginning of another unit.
  have minute : ['s'].isPrefixOf? rest = none := by
    cases fits : ['s'].isPrefixOf? rest with
    | none => rfl
    | some after =>
        rw [← List.isPrefixOf?_eq_some_iff_append_eq.mp fits] at opens
        exact opens.ne_second.elim
  simp only [units, List.mem_cons, List.not_mem_nil, or_false, Prod.mk.injEq] at unit
  rcases unit with ⟨rfl, rfl⟩ | ⟨rfl, rfl⟩ | ⟨rfl, rfl⟩ | ⟨rfl, rfl⟩ | ⟨rfl, rfl⟩ | ⟨rfl, rfl⟩ |
    ⟨rfl, rfl⟩ | ⟨rfl, rfl⟩ | ⟨rfl, rfl⟩ | ⟨rfl, rfl⟩ <;>
    simp [unit?, units, List.isPrefixOf?, minute]

theorem mem_units_of_unit? {text rest : List Char} {scale : Nat}
    (read : unit? text = some (scale, rest)) :
    ∃ name, (name, scale) ∈ units ∧ text = name ++ rest := by
  rcases List.exists_of_findSome?_eq_some read with ⟨⟨name, nanos⟩, unit, found⟩
  rcases Option.map_eq_some_iff.mp found with ⟨after, fits, same⟩
  cases same
  exact ⟨name, unit, (List.isPrefixOf?_eq_some_iff_append_eq.mp fits).symm⟩

theorem component?_of_spelled {component : Component} {text rest : List Char}
    (spelled : component.Spelled text) (opens : Opens rest) :
    component? (text ++ rest) = some (component, rest) := by
  cases spelled with
  | @intro whole fraction number name blanks gap scale front numeral between unit =>
      rcases numeral.starts with ⟨c, after, rfl, _, visible⟩
      rcases starts_of_mem_units unit with ⟨d, letters, rfl, visibleUnit, other⟩
      have numberFirst : trimFront (c :: after ++ (gap ++ (d :: letters ++ rest))) =
          c :: after ++ (gap ++ (d :: letters ++ rest)) :=
        trimFront_eq_self (by rintro _ ⟨⟩; exact visible)
      have unitFirst : trimFront (d :: letters ++ rest) = d :: letters ++ rest :=
        trimFront_eq_self (by rintro _ ⟨⟩; exact visibleUnit)
      have ends : Ends (gap ++ (d :: letters ++ rest)) := by
        cases gap with
        | nil => rintro _ ⟨⟩; exact other
        | cons e gap =>
            rintro _ ⟨⟩
            have blank : isBlank e = true := between e List.mem_cons_self
            refine ⟨isDecimalDigit_of_isBlank blank, ?_⟩
            rintro rfl
            exact absurd blank (by decide)
      simp only [component?, List.append_assoc]
      rw [trimFront_append front, numberFirst, number?_of_numeral numeral ends]
      simp only [Option.bind_eq_bind, Option.bind_some]
      rw [trimFront_append between, unitFirst, unit?_of_mem_units unit opens]
      rfl

theorem spelled_of_component? {component : Component} {text rest : List Char}
    (read : component? text = some (component, rest)) :
    ∃ front, component.Spelled front ∧ text = front ++ rest := by
  simp only [component?, Option.bind_eq_bind, Option.bind_eq_some_iff] at read
  rcases read with ⟨⟨whole, fraction, behind⟩, numberRead, ⟨scale, after⟩, unitRead, same⟩
  cases same
  rcases exists_blank_append_trimFront text with ⟨blanks, front, split⟩
  rcases exists_blank_append_trimFront behind with ⟨gap, between, splitBehind⟩
  rcases numeral_of_number? numberRead with ⟨number, numeral, numberSplit⟩
  rcases mem_units_of_unit? unitRead with ⟨name, unit, unitSplit⟩
  refine ⟨_, .intro front numeral between unit, ?_⟩
  rw [split, numberSplit, splitBehind, unitSplit]
  simp only [List.append_assoc]

/-! ## Sequences of components -/

theorem Component.Spelled.starts {component : Component} {text : List Char}
    (spelled : component.Spelled text) :
    ∃ c rest, text = c :: rest ∧ (isBlank c = true ∨ isDecimalDigit c = true ∨ c = '.') := by
  cases spelled with
  | @intro whole fraction number name blanks gap scale front numeral between unit =>
      rcases numeral.starts with ⟨c, after, rfl, opens, _⟩
      cases blanks with
      | nil => exact ⟨c, _, rfl, .inr opens⟩
      | cons e blanks => exact ⟨e, _, rfl, .inl (front e List.mem_cons_self)⟩

theorem Spelled.opens {components : List Component} {text : List Char}
    (spelled : Spelled components text) : Opens text := by
  intro d head
  cases spelled with
  | nil blank => exact .inl (blank d (List.mem_of_head? head))
  | cons first others =>
      rcases first.starts with ⟨c, rest, rfl, opens⟩
      rcases Option.some.inj head with rfl
      exact opens

theorem Component.Spelled.blank_append {component : Component} {text blanks : List Char}
    (spelled : component.Spelled text) (blank : Blank blanks) :
    component.Spelled (blanks ++ text) := by
  cases spelled with
  | intro front numeral between unit =>
      rw [← List.append_assoc]
      refine .intro ?_ numeral between unit
      intro c member
      exact (List.mem_append.mp member).elim (blank c) (front c)

theorem Spelled.blank_append {components : List Component} {text blanks : List Char}
    (spelled : Spelled components text) (blank : Blank blanks) :
    Spelled components (blanks ++ text) := by
  cases spelled with
  | nil others =>
      apply Spelled.nil
      intro c member
      exact (List.mem_append.mp member).elim (blank c) (others c)
  | cons first others =>
      rw [← List.append_assoc]
      exact .cons (first.blank_append blank) others

/-- The first component of a text is the one that the reader finds there. -/
theorem Spelled.component? {component : Component} {components : List Component}
    {text : List Char} (spelled : Spelled (component :: components) text) :
    ∃ rest, Span.component? text = some (component, rest) ∧ Spelled components rest := by
  cases spelled with
  | cons first others => exact ⟨_, component?_of_spelled first others.opens, others⟩

/-- There is no component in a list of blanks. -/
theorem component?_of_blank {text : List Char} (blank : Blank text) :
    Span.component? text = none := by
  have empty : Text.trimFront text = [] := List.dropWhile_eq_nil_iff.mpr blank
  rw [Span.component?, empty]
  rfl

/-- A text is spelled in one way only. -/
theorem Spelled.unique {components others : List Component} {text : List Char}
    (spelled : Spelled components text) (again : Spelled others text) : components = others := by
  induction components generalizing others text with
  | nil =>
      cases others with
      | nil => rfl
      | cons other others =>
          rcases again.component? with ⟨rest, found, _⟩
          cases spelled with
          | nil blank =>
              rw [component?_of_blank blank] at found
              contradiction
  | cons component components ih =>
      rcases spelled.component? with ⟨rest, found, behind⟩
      cases others with
      | nil =>
          cases again with
          | nil blank =>
              rw [component?_of_blank blank] at found
              contradiction
      | cons other others =>
          rcases again.component? with ⟨after, foundAgain, behindAgain⟩
          rw [found] at foundAgain
          cases foundAgain
          rw [ih behind behindAgain]

/-- Without the blanks at its front, a component is spelled as well, and starts the text. -/
theorem Component.Spelled.trimFront {component : Component} {text : List Char}
    (spelled : component.Spelled text) :
    ∃ bare, component.Spelled bare ∧ ∀ rest, Text.trimFront (text ++ rest) = bare ++ rest := by
  cases spelled with
  | @intro whole fraction number name blanks gap scale front numeral between unit =>
      refine ⟨_, .intro (List.forall_mem_nil _) numeral between unit, ?_⟩
      intro rest
      rcases numeral.starts with ⟨c, after, rfl, _, visible⟩
      rw [List.append_assoc, trimFront_append front, List.nil_append]
      apply trimFront_eq_self
      rintro _ ⟨⟩
      exact visible

/-! ## The sum -/

/-- Adds the nanoseconds of components to a sum. -/
def addComponents (sum : Nat) : List Component → Except (Halt Refusal) Nat
  | [] => .ok sum
  | component :: components =>
    match component.nanos with
    | .error halt => .error halt
    | .ok nanos =>
      if wideBound ≤ sum + nanos then .error Refusal.tooLarge
      else addComponents (sum + nanos) components

theorem sumComponents_nil (sum : Nat) : sumComponents sum [] = .ok sum := by
  rw [sumComponents]
  rfl

theorem length_trimFront_lt {component : Component} {text rest : List Char}
    (read : component? text = some (component, rest)) :
    (trimFront rest).length < text.length := by
  rcases spelled_of_component? read with ⟨front, spelled, rfl⟩
  rcases spelled.starts with ⟨c, after, rfl, _⟩
  have notLonger := List.length_dropWhile_le isBlank rest
  simp only [trimFront, List.length_append, List.length_cons]
  omega

/-- Where a component is at the front of a text, it is added to the sum. -/
theorem sumComponents_of_component? {component : Component} {text rest : List Char}
    (read : component? text = some (component, rest)) (sum : Nat) :
    sumComponents sum text =
      match component.nanos with
      | .error halt => .error halt
      | .ok nanos =>
        if wideBound ≤ sum + nanos then .error Refusal.tooLarge
        else sumComponents (sum + nanos) (trimFront rest) := by
  have shorter := length_trimFront_lt read
  have nonempty : text.isEmpty = false := by
    cases text with
    | nil => exact absurd shorter (Nat.not_lt_zero _)
    | cons c text => rfl
  rw [sumComponents, nonempty, read]
  simp only [shorter, dif_pos]
  rfl

theorem sumComponents_of_not_component? {text : List Char} (present : text ≠ [])
    (absent : component? text = none) (sum : Nat) :
    sumComponents sum text = .error Refusal.invalid := by
  rw [sumComponents, absent, if_neg (by simpa using present)]

/-- The reader adds up the components by which a text is spelled. -/
theorem sumComponents_of_spelled {components : List Component} {text : List Char}
    (spelled : Spelled components text) (sum : Nat) :
    sumComponents sum (trimFront text) = addComponents sum components := by
  induction spelled generalizing sum with
  | nil blank =>
      have empty : trimFront _ = [] := List.dropWhile_eq_nil_iff.mpr blank
      rw [empty, sumComponents_nil]
      rfl
  | cons first others ih =>
      rcases first.trimFront with ⟨bare, spelled, trimmed⟩
      rw [trimmed, sumComponents_of_component? (component?_of_spelled spelled others.opens)]
      simp only [ih, addComponents]

/-- A text that the reader adds up is spelled by components. -/
theorem spelled_of_sumComponents {text : List Char} {sum total : Nat}
    (read : sumComponents sum text = .ok total) : ∃ components, Spelled components text := by
  induction text using (measure List.length).wf.induction generalizing sum with
  | h text ih =>
      by_cases present : text = []
      · rw [present]
        exact ⟨[], .nil (List.forall_mem_nil _)⟩
      · cases found : component? text with
        | none =>
            rw [sumComponents_of_not_component? present found] at read
            contradiction
        | some answer =>
            rcases answer with ⟨component, rest⟩
            rw [sumComponents_of_component? found] at read
            split at read
            · contradiction
            · split at read
              · contradiction
              · rcases ih _ (length_trimFront_lt found) read with ⟨components, others⟩
                rcases spelled_of_component? found with ⟨front, first, rfl⟩
                rcases exists_blank_append_trimFront rest with ⟨blanks, blank, split⟩
                rw [split]
                exact ⟨component :: components, .cons first (others.blank_append blank)⟩

end EntryTree.Span
