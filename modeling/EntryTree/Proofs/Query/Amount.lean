import EntryTree.Proofs.Query.Age
import EntryTree.Proofs.Query.Composition

/-!
# Amounts and the other readings of a value

A value that metadata is compared with is a test of a time, or else a number, or else a word or a
text. What one reading does not take is left to the next one, unless it is rejected for good.
Numbers are delimited by decimal digits of any script and have a value only if all their digits are
in ASCII. A number that is foreign in this sense is rejected, and the text that it also is stays out
of reach; every other token is taken as a number or left alone.
-/

namespace EntryTree

open Text

/-! ## Primaries that fail -/

namespace Primary

variable {β γ : Type} {primary : Primary β} {others : List (Primary β)} {tokens : List String}

/-- The primary has an error for the tokens. -/
def Fails (primary : Primary β) (tokens : List String) : Prop :=
  ∃ error, primary tokens = .error (.failure error)

/-- The primary leaves the tokens to others. -/
def Mismatches (primary : Primary β) (tokens : List String) : Prop :=
  ∃ error, primary tokens = .error (.failure error) ∧ error.kind = .mismatch

/-- The primary fails, and no other is tried. -/
def Rejects (primary : Primary β) (tokens : List String) : Prop :=
  ∃ error, primary tokens = .error (.failure error) ∧ error.kind = .malformed

theorem Mismatches.not_rejects (mismatches : primary.Mismatches tokens) :
    ¬primary.Rejects tokens := by
  rcases mismatches with ⟨error, failed, kind⟩
  rintro ⟨fault, again, other⟩
  simp_all

theorem not_rejects_of_ok {answer : β × List String} (answered : primary tokens = .ok answer) :
    ¬primary.Rejects tokens := by
  rintro ⟨error, failed, _⟩
  simp_all

theorem not_mismatches_of_ok {answer : β × List String} (answered : primary tokens = .ok answer) :
    ¬primary.Mismatches tokens := by
  rintro ⟨error, failed, _⟩
  simp_all

theorem rejects_map {f : β → γ} : (primary.map f).Rejects tokens ↔ primary.Rejects tokens := by
  simp only [Rejects, Primary.map, map_eq_error]

theorem mismatches_map {f : β → γ} :
    (primary.map f).Mismatches tokens ↔ primary.Mismatches tokens := by
  simp only [Mismatches, Primary.map, map_eq_error]

theorem fails_firstOf_cons {expected : String} :
    (firstOf expected (primary :: others)).Fails tokens ↔
      primary.Rejects tokens ∨
        primary.Mismatches tokens ∧ (firstOf expected others).Fails tokens := by
  simp only [Fails, Rejects, Mismatches, firstOf]
  cases answered : primary tokens with
  | ok answer => simp
  | error halt =>
      rcases halt with ⟨kind, message, position⟩ | message
      · cases kind <;> simp [Halt.isMismatch, ParseError.isMismatch]
      · simp [Halt.isMismatch]

end Primary

/-! ## Numbers -/

namespace Comparison

variable {amount : List Char}

def sign : Comparison → List Char
  | .greater => ['+']
  | .less => ['-']
  | .equal => []

theorem sign_append_split (text : List Char) : (split text).1.sign ++ (split text).2 = text := by
  unfold split
  split <;> rfl

theorem split_sign_append (comparison : Comparison)
    (plain : ∀ c ∈ amount.head?, c ≠ '+' ∧ c ≠ '-') :
    split (comparison.sign ++ amount) = (comparison, amount) := by
  cases comparison with
  | greater => rfl
  | less => rfl
  | equal =>
      simp only [sign, List.nil_append]
      unfold split
      split
      · simp at plain
      · simp at plain
      · rfl

/-- How a value has to relate to an amount. -/
def Relates {α : Type} [LT α] (comparison : Comparison) (value amount : α) : Prop :=
  match comparison with
  | .greater => amount < value
  | .less => value < amount
  | .equal => value = amount

theorem holds_iff_relates (comparison : Comparison) {value amount : Int} :
    comparison.holds value amount = true ↔ comparison.Relates value amount := by
  cases comparison <;> simp [holds, Relates]

end Comparison

/-- A text writes a number with these digits before and behind the point. There is a point only in
front of digits. -/
inductive Amount : List Char → List Char → List Char → Prop
  | whole {whole : List Char} (present : whole ≠ []) (digits : Digits whole) :
      Amount whole [] whole
  | fractional {whole fraction : List Char} (before : Digits whole) (present : fraction ≠ [])
      (behind : Digits fraction) : Amount whole fraction (whole ++ '.' :: fraction)

namespace Amount

variable {whole fraction text : List Char}

theorem digits (written : Amount whole fraction text) :
    whole ++ fraction ≠ [] ∧ Digits (whole ++ fraction) := by
  cases written with
  | whole present digits => simpa using ⟨present, digits⟩
  | fractional before present behind =>
      refine ⟨by simp [present], ?_⟩
      intro c member
      exact (List.mem_append.mp member).elim (before c) (behind c)

theorem chars (written : Amount whole fraction text) :
    ∀ c ∈ text, isDecimalDigit c = true ∨ c = '.' := by
  intro c member
  cases written with
  | whole present digits => exact .inl (digits c member)
  | fractional before present behind =>
      simp only [List.mem_append, List.mem_cons] at member
      rcases member with member | rfl | member
      · exact .inl (before c member)
      · exact .inr rfl
      · exact .inl (behind c member)

theorem unsigned (written : Amount whole fraction text) :
    ∀ c ∈ text.head?, c ≠ '+' ∧ c ≠ '-' := by
  intro c head
  rcases written.chars c (List.mem_of_head? head) with digit | rfl
  · constructor <;> rintro rfl <;> exact absurd digit (by decide)
  · decide

end Amount

variable {whole fraction text : List Char}

theorem numberParts?_eq_some_iff :
    numberParts? text = some (whole, fraction) ↔ Amount whole fraction text := by
  constructor
  · intro read
    have parts : text.takeWhile isDecimalDigit ++ text.dropWhile isDecimalDigit = text :=
      List.takeWhile_append_dropWhile
    have before : Digits (text.takeWhile isDecimalDigit) := fun c member =>
      List.mem_takeWhile_imp member
    simp only [numberParts?] at read
    split at read
    · next ended =>
        split at read
        · contradiction
        · next present =>
            simp only [Option.some.injEq, Prod.mk.injEq] at read
            rcases read with ⟨rfl, rfl⟩
            rw [ended, List.append_nil] at parts
            rw [parts] at before present ⊢
            exact .whole (by simpa using present) before
    · next behind point =>
        split at read
        · next valid =>
            simp only [Option.some.injEq, Prod.mk.injEq] at read
            rcases read with ⟨rfl, rfl⟩
            simp only [Bool.and_eq_true, Bool.not_eq_true', List.isEmpty_eq_false_iff,
              List.all_eq_true] at valid
            rw [point] at parts
            generalize text.takeWhile isDecimalDigit = whole at before parts ⊢
            rw [← parts]
            exact .fractional before valid.1 valid.2
        · contradiction
    · contradiction
  · intro written
    cases written with
    | whole present digits =>
        have taken : whole.takeWhile isDecimalDigit = whole :=
          List.takeWhile_eq_self_iff.mpr digits
        have dropped : whole.dropWhile isDecimalDigit = [] := List.dropWhile_eq_nil_iff.mpr digits
        simp [numberParts?, taken, dropped, present]
    | fractional before present behind =>
        have point : isDecimalDigit '.' = false := by decide
        have valid : fraction.all isDecimalDigit = true := List.all_eq_true.mpr behind
        simp [numberParts?, List.takeWhile_append_of_pos before,
          List.dropWhile_append_of_pos before, point, present, valid]

/-- A token is a number with some digit that is not in ASCII. -/
def ForeignNumber (token : String) : Prop :=
  ∃ comparison whole fraction amount,
    token.toList = Comparison.sign comparison ++ amount ∧ Amount whole fraction amount ∧
      ∃ c ∈ whole ++ fraction, c.isDigit = false

/-- The test that a number relates to a bound in double precision. -/
def boundTest (comparison : Comparison) (bound : Binary64) : Predicate Id Json :=
  .atomic fun value =>
    match value.number? with
    | some number => comparison.holds number.toBinary64.order bound.order
    | none => false

section Reading

variable {token : String} {comparison : Comparison} {amount : List Char}

theorem numericComparison_of_ascii (spelled : token.toList = comparison.sign ++ amount)
    (written : Amount whole fraction amount) (ascii : ∀ c ∈ whole ++ fraction, c.isDigit = true)
    (rest : List String) :
    numericComparison (token :: rest) =
      .ok (boundTest comparison (.ofDecimal (decimal (whole ++ fraction)) fraction.length),
        rest) := by
  have value := natural?_of_readable written.digits.1 ascii
  rw [appendDigits_zero] at value
  simp only [numericComparison, spelled, comparison.split_sign_append written.unsigned,
    numberParts?_eq_some_iff.mpr written, numberValue?, value]
  rfl

theorem rejects_of_foreignNumber (foreign : ForeignNumber token) (rest : List String) :
    Primary.Rejects numericComparison (token :: rest) := by
  rcases foreign with ⟨comparison, whole, fraction, amount, spelled, written, c, member, other⟩
  have value : natural? (whole ++ fraction) = none := by
    apply natural?_of_not_readable
    intro ascii
    simp [ascii c member] at other
  simp only [Primary.Rejects, numericComparison, spelled,
    comparison.split_sign_append written.unsigned, numberParts?_eq_some_iff.mpr written,
    numberValue?, value]
  exact ⟨_, rfl, rfl⟩

theorem mismatches_of_numberParts?
    (unread : numberParts? (Comparison.split token.toList).2 = none) (rest : List String) :
    Primary.Mismatches numericComparison (token :: rest) := by
  simp only [Primary.Mismatches, numericComparison, unread]
  exact ⟨_, rfl, rfl⟩

theorem numericComparison_of_not_foreign (native : ¬ForeignNumber token) (rest : List String) :
    (∃ test, numericComparison (token :: rest) = .ok (test, rest)) ∨
      Primary.Mismatches numericComparison (token :: rest) := by
  have spelled := Comparison.sign_append_split token.toList
  cases read : numberParts? (Comparison.split token.toList).2 with
  | none => exact .inr (mismatches_of_numberParts? read rest)
  | some parts =>
      left
      rcases parts with ⟨whole, fraction⟩
      have written := numberParts?_eq_some_iff.mp read
      refine ⟨_, numericComparison_of_ascii spelled.symm written ?_ rest⟩
      intro c member
      by_contra other
      apply native
      exact ⟨_, whole, fraction, _, spelled.symm, written, c, member, by simpa using other⟩

/-! ## The other readings -/

theorem splitMagnitude?_of_amount (written : Amount whole fraction amount) :
    TimeTest.splitMagnitude? amount = none := by
  rw [Option.eq_none_iff_forall_ne_some]
  rintro ⟨digits, unit⟩ split
  rcases TimeTest.splitMagnitude?_eq_some_iff.mp split with ⟨_, _, rfl⟩
  have letter : unit.letter ∈ digits ++ [unit.letter] := by simp
  rcases written.chars _ letter with digit | point
  · rw [unit.isDecimalDigit_letter] at digit
    contradiction
  · cases unit <;> simp [TimeUnit.letter] at point

theorem mismatches_readSigned_of_amount (written : Amount whole fraction amount) (bound : Bound)
    (reference : Instant) (rest : List String) :
    Primary.Mismatches (TimeTest.readSigned bound reference amount) rest := by
  have magnitude := splitMagnitude?_of_amount written
  unfold Primary.Mismatches TimeTest.readSigned
  split
  · next opening =>
      rcases written.chars '\x7b' List.mem_cons_self with digit | point
      · exact absurd digit (by decide)
      · exact absurd point (by decide)
  · simp only [TimeTest.readPast, magnitude]
    exact ⟨_, rfl, rfl⟩

/-- A number is never read as a test of a time, whatever its digits are. -/
theorem mismatches_read_of_amount (spelled : token.toList = comparison.sign ++ amount)
    (written : Amount whole fraction amount) (reference : Instant) (rest : List String) :
    Primary.Mismatches (TimeTest.read reference) (token :: rest) := by
  have signed := mismatches_readSigned_of_amount written
  cases comparison with
  | greater =>
      simp only [Comparison.sign, List.cons_append, List.nil_append] at spelled
      simpa only [Primary.Mismatches, TimeTest.read, spelled] using signed .moreThan reference rest
  | less =>
      simp only [Comparison.sign, List.cons_append, List.nil_append] at spelled
      simpa only [Primary.Mismatches, TimeTest.read, spelled] using signed .lessThan reference rest
  | equal =>
      simp only [Comparison.sign, List.nil_append] at spelled
      have magnitude := splitMagnitude?_of_amount written
      simp only [Primary.Mismatches, TimeTest.read, spelled]
      split
      · exact absurd rfl (written.unsigned '+' rfl).1
      · exact absurd rfl (written.unsigned '-' rfl).2
      · simp only [magnitude, Option.isSome_none, Bool.false_eq_true, if_false]
        split <;> exact ⟨_, rfl, rfl⟩
      · exact ⟨_, rfl, rfl⟩

theorem fails_value_iff (reference : Instant) (token : String) (rest : List String) :
    (Clause.value reference).Fails (token :: rest) ↔
      (TimeTest.read reference).Rejects (token :: rest) ∨
        (TimeTest.read reference).Mismatches (token :: rest) ∧
          Primary.Rejects numericComparison (token :: rest) := by
  have word : ¬Primary.Rejects Clause.literal (token :: rest) := by
    rintro ⟨error, failed, kind⟩
    unfold Clause.literal at failed
    split at failed
    · contradiction
    · contradiction
    · contradiction
    · cases failed
      contradiction
  have text : ¬Primary.Rejects Clause.text (token :: rest) :=
    Primary.not_rejects_of_ok rfl
  have textTaken : ¬Primary.Mismatches Clause.text (token :: rest) :=
    Primary.not_mismatches_of_ok rfl
  simp only [Clause.value, Primary.fails_firstOf_cons, TimeTest.primary, Primary.rejects_map,
    Primary.mismatches_map, word, text, textTaken, false_and, and_false, or_false]

theorem fails_metadata_iff (reference : Instant) {path : String} {tokens : List String}
    (read : (KeyPath.read? path).isSome = true) :
    (Clause.metadata reference).Fails (path :: tokens) ↔ (Clause.value reference).Fails tokens := by
  rcases Option.isSome_iff_exists.mp read with ⟨keys, found⟩
  rw [Primary.Fails, Primary.Fails, Clause.metadata_cons reference found]
  rcases Clause.value reference tokens with (error | message) | answer <;>
    simp [Except.map, Except.mapError, Halt.committed, Halt.shifted]

end Reading

/-- A comparison with a number takes its token or leaves it to the other readings of a value, unless
the token is a foreign number. So a key path and a value are a condition on metadata, unless the
value is a malformed test of a time or a foreign number. -/
theorem numericComparison_settles (token : String) (rest : List String) :
    ((∃ test, numericComparison (token :: rest) = .ok (test, rest)) ∨
        Primary.Mismatches numericComparison (token :: rest) ↔ ¬ForeignNumber token) ∧
    ∀ (reference : Instant) (path : String), (KeyPath.read? path).isSome = true →
      ((Clause.metadata reference).Fails (path :: token :: rest) ↔
        (TimeTest.read reference).Rejects (token :: rest) ∨ ForeignNumber token) := by
  have rejects : Primary.Rejects numericComparison (token :: rest) ↔ ForeignNumber token := by
    constructor
    · intro rejects
      by_contra native
      rcases numericComparison_of_not_foreign native rest with ⟨test, answered⟩ | mismatches
      · exact Primary.not_rejects_of_ok answered rejects
      · exact mismatches.not_rejects rejects
    · intro foreign
      exact rejects_of_foreignNumber foreign rest
  constructor
  · constructor
    · rintro (⟨test, answered⟩ | mismatches) foreign
      · exact Primary.not_rejects_of_ok answered (rejects.mpr foreign)
      · exact mismatches.not_rejects (rejects.mpr foreign)
    · intro native
      exact numericComparison_of_not_foreign native rest
  · intro reference path read
    rw [fails_metadata_iff reference read, fails_value_iff, rejects]
    apply or_congr_right
    constructor
    · exact And.right
    · intro foreign
      rcases foreign with ⟨comparison, whole, fraction, amount, spelled, written, other⟩
      refine ⟨mismatches_read_of_amount spelled written reference rest, ?_⟩
      exact ⟨comparison, whole, fraction, amount, spelled, written, other⟩

theorem numericComparison_settles_fraction :
    (KeyPath.read? ".cpu").isSome = true ∧ ¬ForeignNumber "2.5" ∧
      ¬(Clause.metadata ⟨0, 0⟩).Fails [".cpu", "2.5"] := by
  have path : (KeyPath.read? ".cpu").isSome = true := by decide
  have settled := numericComparison_settles "2.5" []
  have native : ¬ForeignNumber "2.5" := settled.1.mp (.inl ⟨_, rfl⟩)
  have mismatches : (TimeTest.read ⟨0, 0⟩).Mismatches ["2.5"] := ⟨_, rfl, rfl⟩
  refine ⟨path, native, ?_⟩
  rw [settled.2 ⟨0, 0⟩ ".cpu" path]
  rintro (rejects | foreign)
  · exact mismatches.not_rejects rejects
  · exact native foreign

/-- An Arabic digit is rejected as a number, so metadata cannot be compared with it as a text. -/
theorem rejects_arabic_digit :
    Primary.Rejects numericComparison ["٣"] ∧ (TimeTest.read ⟨0, 0⟩).Mismatches ["٣"] ∧
      (Clause.metadata ⟨0, 0⟩).Fails [".name", "٣"] :=
  ⟨⟨_, rfl, rfl⟩, ⟨_, rfl, rfl⟩, ⟨_, rfl⟩⟩

end EntryTree
