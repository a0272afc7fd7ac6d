import EntryTree.Proofs.Number.Rounding
import EntryTree.Proofs.Time.Spelling
import Mathlib.Algebra.GroupWithZero.Nat
import Mathlib.Algebra.Order.BigOperators.Group.List

/-!
# Exactness of spans

A span that is read has just the nanoseconds of the components that spell it, added up over the
naturals, and a text with more nanoseconds than a span can hold is not read. The main statement is
`parse_exact`.

Such a text is refused, with one exception. The whole part of a component is bounded before its
fraction is added, and the sum of the two is not. A component whose whole part is less than one unit
below the bound can overrun it, and then the reader panics. Such components are set apart in
`Component.Overruns`, and the texts on which they are come upon in `Overflows`. Components are
counted from the front, so it does not matter what follows the first one that overruns, not even
whether it is a component.
-/

namespace EntryTree.Span

open Text

/-- Digits have a value in ASCII only. -/
abbrev Component.Readable (component : Component) : Prop :=
  ∀ c ∈ component.whole ++ component.fraction, c.isDigit = true

/-- The nanoseconds in the whole part of a component. -/
def Component.wholeNanos (component : Component) : Nat :=
  appendDigits 0 component.whole * component.scale

/-- The nanoseconds in the fraction of a component, to the nearest one in double precision. -/
def Component.fractionNanos (component : Component) : Nat :=
  (Binary64.ofDecimal (appendDigits 0 component.fraction)
    component.fraction.length).timesRounded component.scale

/-- The nanoseconds in a component, whatever their number. -/
def Component.exactNanos (component : Component) : Nat :=
  component.wholeNanos + component.fractionNanos

/-- The fraction of a component takes it over the bound that its whole part keeps. -/
structure Component.Overruns (component : Component) : Prop where
  readable : component.Readable
  kept : component.wholeNanos < wideBound
  exceeded : wideBound ≤ component.exactNanos

/-- The nanoseconds in components, whatever their number. -/
def total (components : List Component) : Nat :=
  (components.map Component.exactNanos).sum

/-- A text starts with components, one behind another. Anything may follow them. -/
inductive Starts : List Component → List Char → Prop
  | nil {text : List Char} : Starts [] text
  | cons {component : Component} {components : List Component} {text rest : List Char}
      (found : component? text = some (component, rest)) (others : Starts components rest) :
      Starts (component :: components) text

/-- Behind components that can be added up, a text has one that overruns the bound. -/
def Overflows (text : List Char) : Prop :=
  ∃ (before : List Component) (component : Component), Starts (before ++ [component]) text ∧
    (∀ earlier ∈ before, earlier.Readable) ∧ total before < wideBound ∧ component.Overruns

/-! ## Components -/

theorem fractionNanos_of_nil {component : Component} (absent : component.fraction = []) :
    component.fractionNanos = 0 := by
  have zero : Binary64.ofDecimal 0 0 = .finite false 0 := by decide +kernel
  have nothing : Binary64.roundHalfUp (Binary64.nearestQuanta 0 1) Binary64.unity = 0 := by
    decide +kernel
  rw [Component.fractionNanos, absent]
  simp only [appendDigits, List.foldl_nil, List.length_nil]
  rw [zero, Binary64.timesRounded, Nat.zero_mul, nothing]

/-- A fraction counts for one unit at most. -/
theorem Component.fractionNanos_le {component : Component} (readable : component.Readable)
    {name : List Char} (unit : (name, component.scale) ∈ units) :
    component.fractionNanos ≤ component.scale := by
  have fits : ∀ pair ∈ units, pair.2 < 2 ^ 53 := by decide
  have digits := appendDigits_lt
    (fun c member => readable c (List.mem_append_right component.whole member)) 0
  apply Binary64.timesRounded_ofDecimal_le _ (fits _ unit)
  omega

/-- Only a component within one unit of the bound overruns it. -/
theorem Component.Overruns.near {component : Component} (overruns : component.Overruns)
    {name : List Char} (unit : (name, component.scale) ∈ units) :
    wideBound ≤ component.wholeNanos + component.scale :=
  Nat.le_trans overruns.exceeded
    (Nat.add_le_add_left (fractionNanos_le overruns.readable unit) component.wholeNanos)

/-- The nanoseconds of a component whose whole part has this value. -/
def Component.nanosFrom (component : Component) (whole : Nat) : Except (Halt Refusal) Nat :=
  if wideBound ≤ whole || wideBound ≤ whole * component.scale then .error Refusal.tooLarge
  else if component.fraction.isEmpty then .ok (whole * component.scale)
  else
    match natural? component.fraction with
    | none => .error Refusal.invalid
    | some digits =>
      let fraction := Binary64.ofDecimal digits component.fraction.length
      let nanos := whole * component.scale + fraction.timesRounded component.scale
      if wideBound ≤ nanos then .error .overflow else .ok nanos

theorem Component.nanos_eq_nanosFrom {component : Component}
    (readable : ∀ c ∈ component.whole, c.isDigit = true) :
    component.nanos = component.nanosFrom (appendDigits 0 component.whole) := by
  by_cases absent : component.whole = []
  · rw [nanos, absent]
    rfl
  · have nonempty : component.whole.isEmpty = false := by simpa using absent
    rw [nanos, nonempty, natural?_of_readable absent readable]
    rfl

/-- What the reader makes of a component: it refuses a whole part that does not fit the word, and
panics where the sum with the fraction does not. -/
theorem Component.nanos_of_readable {component : Component} (readable : component.Readable)
    (positive : 0 < component.scale) :
    component.nanos =
      if wideBound ≤ component.wholeNanos then .error Refusal.tooLarge
      else if wideBound ≤ component.exactNanos then .error .overflow
      else .ok component.exactNanos := by
  have before : ∀ c ∈ component.whole, c.isDigit = true := fun c member =>
    readable c (List.mem_append_left component.fraction member)
  have behind : ∀ c ∈ component.fraction, c.isDigit = true := fun c member =>
    readable c (List.mem_append_right component.whole member)
  have larger : appendDigits 0 component.whole ≤ component.wholeNanos :=
    Nat.le_mul_of_pos_right _ positive
  rw [nanos_eq_nanosFrom before, nanosFrom, ← wholeNanos]
  simp only [Bool.or_eq_true, decide_eq_true_eq]
  by_cases wide : wideBound ≤ component.wholeNanos
  · rw [if_pos wide, if_pos (.inr wide)]
  · rw [if_neg wide, if_neg (by omega)]
    by_cases absent : component.fraction = []
    · rw [exactNanos, fractionNanos_of_nil absent, Nat.add_zero, if_neg wide, absent]
      rfl
    · have nonempty : component.fraction.isEmpty = false := by simpa using absent
      rw [nonempty, natural?_of_readable absent behind, if_neg Bool.false_ne_true]
      dsimp only
      rw [← fractionNanos, ← exactNanos]

theorem isEmpty_of_not_readable {digits : List Char}
    (unreadable : ¬∀ c ∈ digits, c.isDigit = true) : digits.isEmpty = false := by
  cases digits with
  | nil => exact absurd (List.forall_mem_nil _) unreadable
  | cons => rfl

theorem Component.nanos_of_not_readable {component : Component}
    (unreadable : ¬component.Readable) :
    ∃ refusal, component.nanos = .error (.failure refusal) := by
  by_cases before : ∀ c ∈ component.whole, c.isDigit = true
  · have behind : ¬∀ c ∈ component.fraction, c.isDigit = true := by
      intro behind
      exact unreadable fun c member => (List.mem_append.mp member).elim (before c) (behind c)
    rw [nanos_eq_nanosFrom before, nanosFrom, isEmpty_of_not_readable behind,
      natural?_of_not_readable behind]
    split
    · exact ⟨.tooLarge, rfl⟩
    · exact ⟨.invalid, rfl⟩
  · refine ⟨.tooLarge, ?_⟩
    rw [nanos, isEmpty_of_not_readable before, natural?_of_not_readable before]
    rfl

theorem Component.nanos_of_overruns {component : Component} (overruns : component.Overruns)
    (positive : 0 < component.scale) : component.nanos = .error .overflow := by
  rw [nanos_of_readable overruns.readable positive, if_neg (Nat.not_le.mpr overruns.kept),
    if_pos overruns.exceeded]

/-- The reader panics at components that overrun the bound, and at no others. -/
theorem Component.overruns_of_panic {component : Component} (positive : 0 < component.scale)
    {message : String} (panicked : component.nanos = .error (.panic message)) :
    component.Overruns ∧ Halt.panic message = (.overflow : Halt Refusal) := by
  have readable : component.Readable := by
    by_contra unreadable
    rcases component.nanos_of_not_readable unreadable with ⟨refusal, refused⟩
    cases panicked.symm.trans refused
  rw [nanos_of_readable readable positive] at panicked
  split at panicked
  · cases panicked
  · next kept =>
      split at panicked
      · next exceeded =>
          exact ⟨⟨readable, Nat.lt_of_not_le kept, exceeded⟩, (Except.error.inj panicked).symm⟩
      · cases panicked

/-- The nanoseconds of a component are exact where the reader finds any. -/
theorem Component.nanos_eq_ok {component : Component} (positive : 0 < component.scale) {nanos : Nat}
    (counted : component.nanos = .ok nanos) :
    component.Readable ∧ nanos = component.exactNanos := by
  have readable : component.Readable := by
    by_contra unreadable
    rcases component.nanos_of_not_readable unreadable with ⟨refusal, refused⟩
    cases counted.symm.trans refused
  rw [nanos_of_readable readable positive] at counted
  split at counted
  · cases counted
  · split at counted
    · cases counted
    · exact ⟨readable, (Except.ok.inj counted).symm⟩

/-! ## The sum -/

theorem total_cons (component : Component) (components : List Component) :
    total (component :: components) = component.exactNanos + total components := by
  simp [total]

theorem Spelled.unit {components : List Component} {text : List Char}
    (spelled : Spelled components text) :
    ∀ component ∈ components, ∃ name, (name, component.scale) ∈ units := by
  induction spelled with
  | nil => exact List.forall_mem_nil _
  | cons first others ih =>
      rw [List.forall_mem_cons]
      cases first with
      | intro front numeral between unit => exact ⟨⟨_, unit⟩, ih⟩

theorem Spelled.scale_pos {components : List Component} {text : List Char}
    (spelled : Spelled components text) : ∀ component ∈ components, 0 < component.scale := by
  intro component member
  rcases spelled.unit component member with ⟨name, unit⟩
  exact Span.scale_pos unit

/-- The reader adds up components exactly, unless it comes upon one that overruns the bound. -/
theorem addComponents_of_readable {components : List Component}
    (positive : ∀ component ∈ components, 0 < component.scale)
    (readable : ∀ component ∈ components, component.Readable) {sum : Nat} (below : sum < wideBound)
    (contained : ∀ before component behind, components = before ++ component :: behind →
      sum + total before < wideBound → ¬component.Overruns) :
    addComponents sum components =
      if sum + total components < wideBound then .ok (sum + total components)
      else .error Refusal.tooLarge := by
  induction components generalizing sum with
  | nil => exact (if_pos below).symm
  | cons component components ih =>
      rw [List.forall_mem_cons] at positive readable
      have first : ¬component.Overruns := contained [] component components rfl below
      rw [addComponents, component.nanos_of_readable readable.1 positive.1, total_cons]
      by_cases wide : wideBound ≤ component.wholeNanos
      · have beyond : ¬sum + (component.exactNanos + total components) < wideBound := by
          rw [Component.exactNanos]
          omega
        rw [if_pos wide, if_neg beyond]
      · have fits : ¬wideBound ≤ component.exactNanos := by
          intro exceeded
          exact first ⟨readable.1, Nat.lt_of_not_le wide, exceeded⟩
        rw [if_neg wide, if_neg fits, ← Nat.add_assoc]
        by_cases reached : wideBound ≤ sum + component.exactNanos
        · rw [if_neg (by omega)]
          exact if_pos reached
        · have others := ih positive.2 readable.2 (Nat.lt_of_not_le reached)
          rw [← others]
          · exact if_neg reached
          · rintro before other behind rfl kept
            refine contained (component :: before) other behind rfl ?_
            rwa [total_cons, ← Nat.add_assoc]

theorem addComponents_of_not_readable {components : List Component}
    (unreadable : ¬∀ component ∈ components, component.Readable) (sum : Nat) :
    ∃ halt, addComponents sum components = .error halt := by
  induction components generalizing sum with
  | nil => exact absurd (List.forall_mem_nil _) unreadable
  | cons component components ih =>
      rw [List.forall_mem_cons, not_and_or] at unreadable
      rw [addComponents]
      cases found : component.nanos with
      | error halt => exact ⟨halt, rfl⟩
      | ok nanos =>
          rcases unreadable with first | behind
          · rcases component.nanos_of_not_readable first with ⟨refusal, failed⟩
            rw [failed] at found
            contradiction
          · by_cases reached : wideBound ≤ sum + nanos
            · exact ⟨Refusal.tooLarge, if_pos reached⟩
            · rcases ih behind (sum + nanos) with ⟨halt, failed⟩
              exact ⟨halt, (if_neg reached).trans failed⟩

/-! ## Panics -/

theorem scale_pos_of_component? {component : Component} {text rest : List Char}
    (found : component? text = some (component, rest)) : 0 < component.scale := by
  rcases spelled_of_component? found with ⟨front, spelled, _⟩
  cases spelled with
  | intro blank numeral between unit => exact scale_pos unit

theorem component?_trimFront (text : List Char) :
    component? (trimFront text) = component? text := by
  rw [component?, trimFront_trimFront, component?]

namespace Starts

variable {components others : List Component} {text : List Char}

theorem of_trimFront (starts : Starts components (trimFront text)) : Starts components text := by
  cases starts with
  | nil => exact .nil
  | cons found others =>
      rw [component?_trimFront] at found
      exact .cons found others

theorem scale_pos (starts : Starts components text) :
    ∀ component ∈ components, 0 < component.scale := by
  induction starts with
  | nil => exact List.forall_mem_nil _
  | cons found _ ih =>
      rw [List.forall_mem_cons]
      exact ⟨scale_pos_of_component? found, ih⟩

/-- What the components at the front of a text halt at, the reader halts at. -/
theorem sumComponents_error (starts : Starts components text) {sum : Nat} {halt : Halt Refusal}
    (halts : addComponents sum components = .error halt) :
    sumComponents sum (Text.trimFront text) = .error halt := by
  induction starts generalizing sum with
  | nil => contradiction
  | @cons component components text rest found _ ih =>
      rw [← component?_trimFront] at found
      rw [sumComponents_of_component? found]
      rw [addComponents] at halts
      split at halts
      · exact halts
      · split at halts
        · next reached => exact (if_pos reached).trans halts
        · next kept => exact (if_neg kept).trans (ih halts)

/-- Components at the front of a text that is spelled are the first ones by which it is. -/
theorem subset (starts : Starts components text) (spelled : Spelled others text) :
    components ⊆ others := by
  induction starts generalizing others with
  | nil => exact List.nil_subset _
  | cons found _ ih =>
      cases others with
      | nil =>
          cases spelled with
          | nil blank =>
              rw [component?_of_blank blank] at found
              contradiction
      | cons other others =>
          rcases spelled.component? with ⟨rest, again, behind⟩
          cases found.symm.trans again
          exact List.cons_subset_cons _ (ih behind)

end Starts

theorem Spelled.starts {components others : List Component} {text : List Char}
    (spelled : Spelled (components ++ others) text) : Starts components text := by
  induction components generalizing text with
  | nil => exact .nil
  | cons component components ih =>
      rcases spelled.component? with ⟨rest, found, behind⟩
      exact .cons found (ih behind)

/-- Behind components that can be added up, one that overruns the bound makes the sum overflow. -/
theorem addComponents_of_overruns {before : List Component} {component : Component} {sum : Nat}
    (positive : ∀ other ∈ before ++ [component], 0 < other.scale)
    (readable : ∀ earlier ∈ before, earlier.Readable) (kept : sum + total before < wideBound)
    (overruns : component.Overruns) :
    addComponents sum (before ++ [component]) = .error .overflow := by
  induction before generalizing sum with
  | nil =>
      rw [List.nil_append] at positive ⊢
      rw [addComponents, component.nanos_of_overruns overruns (positive _ List.mem_cons_self)]
  | cons first before ih =>
      rw [List.cons_append, List.forall_mem_cons] at positive
      rw [List.forall_mem_cons] at readable
      rw [total_cons] at kept
      have whole : ¬wideBound ≤ first.wholeNanos := by
        rw [Component.exactNanos] at kept
        omega
      rw [List.cons_append, addComponents, first.nanos_of_readable readable.1 positive.1,
        if_neg whole, if_neg (by omega)]
      dsimp only
      rw [if_neg (by omega)]
      exact ih positive.2 readable.2 (by omega)

/-- The reader panics only where a component overruns the bound behind those that it has added
up. -/
theorem overruns_of_sumComponents {text : List Char} {sum : Nat} (below : sum < wideBound)
    {message : String} (panicked : sumComponents sum text = .error (.panic message)) :
    Halt.panic message = (.overflow : Halt Refusal) ∧
      ∃ before component, Starts (before ++ [component]) text ∧
        (∀ earlier ∈ before, earlier.Readable) ∧ sum + total before < wideBound ∧
        component.Overruns := by
  induction text using (measure List.length).wf.induction generalizing sum with
  | h text ih =>
      by_cases present : text = []
      · rw [present, sumComponents_nil] at panicked
        contradiction
      cases found : component? text with
      | none =>
          rw [sumComponents_of_not_component? present found] at panicked
          cases panicked
      | some answer =>
          rcases answer with ⟨component, rest⟩
          have positive := scale_pos_of_component? found
          rw [sumComponents_of_component? found] at panicked
          split at panicked
          · next halt counted =>
              rcases Except.error.inj panicked with rfl
              rcases component.overruns_of_panic positive counted with ⟨overruns, same⟩
              exact ⟨same, [], component, .cons found .nil, List.forall_mem_nil _, below, overruns⟩
          · next nanos counted =>
              split at panicked
              · cases panicked
              · next kept =>
                  rcases component.nanos_eq_ok positive counted with ⟨readable, exact⟩
                  rw [exact] at panicked kept
                  rcases ih _ (length_trimFront_lt found) (Nat.lt_of_not_le kept) panicked with
                    ⟨same, before, other, starts, others, fits, overruns⟩
                  refine ⟨same, component :: before, other, .cons found starts.of_trimFront,
                    List.forall_mem_cons.mpr ⟨readable, others⟩, ?_, overruns⟩
                  rwa [total_cons, ← Nat.add_assoc]

/-- Adding up what a text is made of panics where a component overruns the bound. -/
theorem sumComponents_eq_panic_iff {text : List Char} {message : String} :
    sumComponents 0 (trimFront text) = .error (.panic message) ↔
      message = "attempt to add with overflow" ∧ Overflows text := by
  constructor
  · intro panicked
    rcases overruns_of_sumComponents (show 0 < wideBound by decide) panicked with
      ⟨same, before, component, starts, readable, fits, overruns⟩
    rw [Nat.zero_add] at fits
    exact ⟨Halt.panic.inj same, before, component, starts.of_trimFront, readable, fits, overruns⟩
  · rintro ⟨rfl, before, component, starts, readable, fits, overruns⟩
    rw [← Nat.zero_add (total before)] at fits
    exact starts.sumComponents_error
      (addComponents_of_overruns starts.scale_pos readable fits overruns)

/-! ## Texts -/

theorem Spelled.component?_ne_none {components : List Component} {text : List Char}
    (spelled : Spelled components text) (present : components ≠ []) :
    Span.component? text ≠ none := by
  cases components with
  | nil => contradiction
  | cons component components =>
      rcases spelled.component? with ⟨rest, found, _⟩
      rw [found]
      exact Option.some_ne_none _

theorem Spelled.ne_zero {components : List Component} {text : List Char}
    (spelled : Spelled components text) (present : components ≠ []) : text ≠ ['0'] := by
  rintro rfl
  exact spelled.component?_ne_none present (by decide)

theorem parse_of_spelled {components : List Component} {text : String}
    (spelled : Spelled components (trim text.toList)) (present : components ≠ []) :
    parse text =
      match addComponents 0 components with
      | .error halt => .error halt
      | .ok nanos => if nanos < bound then .ok ⟨nanos⟩ else .error Refusal.tooLarge := by
  have nonempty : (trim text.toList).isEmpty = false := by
    rw [List.isEmpty_eq_false_iff]
    intro empty
    rw [empty] at spelled
    exact spelled.component?_ne_none present (by decide)
  have read := sumComponents_of_spelled spelled 0
  rw [trimFront_trim] at read
  simp only [parse, if_neg (spelled.ne_zero present), nonempty, read]
  rfl

theorem parse_zero {text : String} (zero : trim text.toList = ['0']) : parse text = .ok ⟨0⟩ := by
  rw [parse]
  exact if_pos zero

/-- What is read is a zero or spelled by components. -/
theorem spelled_of_parse {text : String} {span : Span} (read : parse text = .ok span) :
    trim text.toList = ['0'] ∧ span = ⟨0⟩ ∨
      ∃ components, components ≠ [] ∧ Spelled components (trim text.toList) := by
  by_cases zero : trim text.toList = ['0']
  · rw [parse_zero zero] at read
    exact .inl ⟨zero, (Except.ok.inj read).symm⟩
  · right
    simp only [parse, if_neg zero] at read
    split at read
    · contradiction
    · next present =>
        split at read
        · contradiction
        · next nanos sum =>
            rcases spelled_of_sumComponents sum with ⟨components, spelled⟩
            refine ⟨components, ?_, spelled⟩
            rintro rfl
            cases spelled with
            | nil blank =>
                apply present
                rw [← trimFront_trim, List.isEmpty_iff]
                exact List.dropWhile_eq_nil_iff.mpr blank

theorem Overflows.component?_ne_none {text : List Char} (overflows : Overflows text) :
    component? text ≠ none := by
  rcases overflows with ⟨before, component, starts, _⟩
  generalize whole : before ++ [component] = components at starts
  cases starts with
  | nil => simp at whole
  | cons found _ =>
      rw [found]
      exact Option.some_ne_none _

theorem parse_eq_panic_iff {text : String} {message : String} :
    parse text = .error (.panic message) ↔
      message = "attempt to add with overflow" ∧ Overflows (trim text.toList) := by
  rw [← sumComponents_eq_panic_iff, trimFront_trim]
  by_cases zero : trim text.toList = ['0']
  · have unspelled : sumComponents 0 ['0'] = .error (.failure .invalid) :=
      sumComponents_of_not_component? (by decide) (by decide) 0
    rw [parse_zero zero, zero, unspelled]
    simp
  · by_cases empty : trim text.toList = []
    · rw [empty, sumComponents_nil, parse, empty]
      simp
    · simp only [parse, if_neg zero, List.isEmpty_iff, if_neg empty]
      cases sumComponents 0 (trim text.toList) with
      | error halt => simp only [Except.error.injEq]
      | ok nanos =>
          dsimp only
          split <;> simp

/-- Spelled by digits in ASCII, a text on which no component overruns the bound is read exactly or
refused. -/
theorem parse_of_readable {components : List Component} {text : String}
    (spelled : Spelled components (trim text.toList)) (present : components ≠ [])
    (readable : ∀ component ∈ components, component.Readable)
    (contained : ¬Overflows (trim text.toList)) :
    parse text =
      if total components < bound then .ok ⟨total components⟩ else .error Refusal.tooLarge := by
  have none : ∀ before component behind, components = before ++ component :: behind →
      0 + total before < wideBound → ¬component.Overruns := by
    rintro before component behind rfl kept overruns
    rw [Nat.zero_add] at kept
    rw [List.append_cons] at spelled
    refine contained ⟨before, component, spelled.starts, ?_, kept, overruns⟩
    intro earlier member
    exact readable earlier (List.mem_append_left _ member)
  have sum := addComponents_of_readable spelled.scale_pos readable (show 0 < wideBound by decide)
    none
  have narrower : bound ≤ wideBound := by decide
  rw [parse_of_spelled spelled present, sum, Nat.zero_add]
  by_cases fits : total components < wideBound
  · rw [if_pos fits]
  · rw [if_neg fits, if_neg (by omega)]

theorem parse_of_not_readable {components : List Component} {text : String}
    (spelled : Spelled components (trim text.toList))
    (unreadable : ¬∀ component ∈ components, component.Readable) :
    ∃ halt, parse text = .error halt := by
  have present : components ≠ [] := by
    rintro rfl
    exact unreadable (List.forall_mem_nil _)
  rcases addComponents_of_not_readable unreadable 0 with ⟨halt, halts⟩
  rw [parse_of_spelled spelled present, halts]
  exact ⟨halt, rfl⟩

theorem exactNanos_le_total {components : List Component} :
    ∀ component ∈ components, component.exactNanos ≤ total components := by
  intro component member
  exact List.single_le_sum (fun _ _ => Nat.zero_le _) _ (List.mem_map_of_mem member)

/-- A text whose components a span can hold has none that overruns the bound. -/
theorem Spelled.not_overflows {components : List Component} {text : List Char}
    (spelled : Spelled components text) (fits : total components < bound) : ¬Overflows text := by
  rintro ⟨before, component, starts, _, _, overruns⟩
  have narrower : bound ≤ wideBound := by decide
  have member : component ∈ components := starts.subset spelled (by simp)
  have small := exactNanos_le_total component member
  have exceeded := overruns.exceeded
  omega

/-- Reading a span is exact: a text is read just if it is a zero or spelled by components that a
span can hold, and then as the sum of their nanoseconds. A text with more nanoseconds than a span
holds, or with digits that have no value, is refused, unless a component overruns the bound; and
where one does, and nowhere else, the reader panics. -/
theorem parse_exact (text : String) :
    (∀ span, parse text = .ok span ↔
      trim text.toList = ['0'] ∧ span = ⟨0⟩ ∨
        ∃ components, components ≠ [] ∧ Spelled components (trim text.toList) ∧
          (∀ component ∈ components, component.Readable) ∧
          total components < bound ∧ span.nanos = total components) ∧
    (∀ components, Spelled components (trim text.toList) →
      (∀ component ∈ components, component.Readable) → bound ≤ total components →
        ¬Overflows (trim text.toList) → parse text = .error (.failure .tooLarge)) ∧
    (∀ components, Spelled components (trim text.toList) →
      ¬(∀ component ∈ components, component.Readable) → ¬Overflows (trim text.toList) →
        ∃ refusal, parse text = .error (.failure refusal)) ∧
    ∀ message, parse text = .error (.panic message) ↔
      message = "attempt to add with overflow" ∧ Overflows (trim text.toList) := by
  refine ⟨fun span => ⟨?_, ?_⟩, ?_, ?_, fun _ => parse_eq_panic_iff⟩
  · intro read
    rcases spelled_of_parse read with zero | ⟨components, present, spelled⟩
    · exact .inl zero
    · right
      refine ⟨components, present, spelled, ?_⟩
      have contained : ¬Overflows (trim text.toList) := by
        intro overflows
        cases read.symm.trans (parse_eq_panic_iff.mpr ⟨rfl, overflows⟩)
      by_cases readable : ∀ component ∈ components, component.Readable
      · rw [parse_of_readable spelled present readable contained] at read
        split at read
        · next fits =>
            cases read
            exact ⟨readable, fits, rfl⟩
        · contradiction
      · rcases parse_of_not_readable spelled readable with ⟨halt, halts⟩
        rw [halts] at read
        contradiction
  · rintro (⟨zero, rfl⟩ | ⟨components, present, spelled, readable, fits, same⟩)
    · exact parse_zero zero
    · rw [parse_of_readable spelled present readable (spelled.not_overflows fits), if_pos fits,
        ← same]
  · intro components spelled readable beyond contained
    have present : components ≠ [] := by
      rintro rfl
      exact absurd beyond (by decide)
    rw [parse_of_readable spelled present readable contained]
    exact if_neg (Nat.not_lt.mpr beyond)
  · intro components spelled unreadable contained
    rcases parse_of_not_readable spelled unreadable with ⟨refusal | message, halts⟩
    · exact ⟨refusal, halts⟩
    · exact absurd (parse_eq_panic_iff.mp halts).2 contained

/-- An hour and a half of a second, as they are written with blanks around them. -/
def specimen : String := " 1h 0.5s"

def specimenComponents : List Component :=
  [⟨['1'], [], 3600000000000⟩, ⟨['0'], ['5'], 1000000000⟩]

theorem spelled_specimen : Spelled specimenComponents (trim specimen.toList) := by
  have hour : Component.Spelled ⟨['1'], [], 3600000000000⟩ ([] ++ (['1'] ++ ([] ++ ['h']))) :=
    .intro (List.forall_mem_nil _) (.plain (by decide) (List.all_eq_true.mp rfl))
      (List.forall_mem_nil _) (by decide)
  have second : Component.Spelled ⟨['0'], ['5'], 1000000000⟩
      ([' '] ++ (['0'] ++ '.' :: ['5'] ++ ([] ++ ['s']))) :=
    .intro (List.all_eq_true.mp rfl)
      (.pointed (by decide) (List.all_eq_true.mp rfl) (List.all_eq_true.mp rfl))
      (List.forall_mem_nil _) (by decide)
  exact .cons hour (.cons second (.nil (List.forall_mem_nil _)))

theorem parse_exact_specimen : parse specimen = .ok ⟨3600500000000⟩ := by
  have readable : ∀ component ∈ specimenComponents, component.Readable := by
    simp [specimenComponents, Component.Readable]
  refine ((parse_exact specimen).1 _).mpr (.inr ?_)
  exact ⟨specimenComponents, by decide, spelled_specimen, readable, by decide +kernel,
    by decide +kernel⟩

/-- The greatest whole part that is kept, and a fraction. The two reach the bound. -/
def overrunning : Component :=
  ⟨"340282366920938463463374607431768211455".toList, ['9'], 1⟩

theorem spelled_overrunning :
    Spelled [overrunning] "340282366920938463463374607431768211455.9ns".toList := by
  have component : overrunning.Spelled
      ([] ++ (overrunning.whole ++ '.' :: overrunning.fraction ++ ([] ++ ['n', 's']))) :=
    .intro (List.forall_mem_nil _)
      (.pointed (by decide) (List.all_eq_true.mp rfl) (List.all_eq_true.mp rfl))
      (List.forall_mem_nil _) (by decide)
  exact .cons component (.nil (List.forall_mem_nil _))

theorem overruns_overrunning : overrunning.Overruns :=
  ⟨List.all_eq_true.mp rfl, by decide +kernel, by decide +kernel⟩

theorem overflows_overrunning : Overflows "340282366920938463463374607431768211455.9ns".toList :=
  ⟨[], overrunning, spelled_overrunning.starts, List.forall_mem_nil _, by decide,
    overruns_overrunning⟩

/-- The text has more nanoseconds in it than a span holds, and the reader panics. -/
theorem parse_overrunning :
    Spelled [overrunning] (trim "340282366920938463463374607431768211455.9ns".toList) ∧
    overrunning.Readable ∧ bound ≤ total [overrunning] ∧
    parse "340282366920938463463374607431768211455.9ns" =
      .error (.panic "attempt to add with overflow") := by
  have bare : trim "340282366920938463463374607431768211455.9ns".toList =
      "340282366920938463463374607431768211455.9ns".toList := by decide
  rw [parse_eq_panic_iff, bare]
  exact ⟨spelled_overrunning, overruns_overrunning.readable, by decide +kernel, rfl,
    overflows_overrunning⟩

end EntryTree.Span
