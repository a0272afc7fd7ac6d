import EntryTree.Proofs.Query.Amount
import EntryTree.Proofs.Time.Exactness

/-!
# Which tokens are tests of times

A test of a time that cannot be accepted is either left to other readings of the tokens or rejected
for good, and the first token alone decides which of the two. It is left to others unless it is a
count of units, with or without a sign, or a sign with an opening brace behind it. A count without a
sign is always rejected. What is wrong further on, in the amount or at the closing brace, is wrong
with a test.

Between braces there may be a component that overruns the word it is counted in. Then the test is
neither accepted nor rejected, for the reader panics; there is no other way for it to do so.
-/

namespace EntryTree.TimeTest

variable {bound : Bound} {reference : Instant} {text piece : List Char} {c : Char} {token : String}
  {more rest : List String} {test : TimeTest}

/-- A text writes a count of units: digits, and the letter of the unit behind them. -/
def Magnitude (text : List Char) : Prop :=
  ∃ (digits : List Char) (unit : TimeUnit),
    digits ≠ [] ∧ (∀ c ∈ digits, c.isDigit = true) ∧ text = digits ++ [unit.letter]

/-- The texts of tokens that are not for a test of a time. -/
inductive Atemporal : List Char → Prop
  | empty : Atemporal []
  | other {c : Char} {text : List Char} (plus : c ≠ '+') (hyphen : c ≠ '-')
      (letter : c.isDigit = false) : Atemporal (c :: text)
  | unsigned {c : Char} {text : List Char} (digit : c.isDigit = true)
      (uncounted : ¬Magnitude (c :: text)) : Atemporal (c :: text)
  | signed {bound : Bound} {text : List Char} (bare : text.head? ≠ some '\x7b')
      (uncounted : ¬Magnitude text) : Atemporal (bound.sign :: text)

/-- The texts of tokens that open a brace behind their sign. -/
def Braced (text : List Char) : Prop :=
  ∃ (bound : Bound) (piece : List Char), text = bound.sign :: '\x7b' :: piece

/-- Between the braces that a token opens, a component overruns the word it is counted in. -/
def Overruns (token : String) (more : List String) : Prop :=
  ∃ (bound : Bound) (piece text : List Char) (rest : List String),
    token.toList = bound.sign :: '\x7b' :: piece ∧ braced 0 piece more = .ok (text, rest) ∧
      Span.Overflows (Text.trim text)

theorem isSome_splitMagnitude?_iff : (splitMagnitude? text).isSome = true ↔ Magnitude text := by
  simp only [Option.isSome_iff_exists, Prod.exists, splitMagnitude?_eq_some_iff, Magnitude]

theorem Magnitude.head (magnitude : Magnitude (c :: text)) : c.isDigit = true := by
  rcases magnitude with ⟨digits, unit, present, ascii, written⟩
  cases digits with
  | nil => contradiction
  | cons first digits =>
      rcases List.cons.inj written with ⟨rfl, _⟩
      exact ascii c List.mem_cons_self

/-! ## Behind the sign -/

theorem readSigned_brace :
    readSigned bound reference ('\x7b' :: piece) more = readFuture bound reference piece more := by
  simp only [readSigned]

theorem readSigned_of_bare (bare : text.head? ≠ some '\x7b') :
    readSigned bound reference text more = readPast bound reference text more := by
  unfold readSigned
  split
  · contradiction
  · rfl

theorem mismatches_readPast_iff :
    Primary.Mismatches (readPast bound reference text) more ↔ ¬Magnitude text := by
  rw [← isSome_splitMagnitude?_iff]
  constructor
  · rintro ⟨error, failed, kind⟩ magnitude
    rcases Option.isSome_iff_exists.mp magnitude with ⟨⟨digits, unit⟩, split⟩
    unfold readPast past? at failed
    grind [Halt.lift, ParseError.malformed, map_eq_error]
  · intro uncounted
    rw [Bool.not_eq_true, Option.isSome_eq_false_iff, Option.isNone_iff_eq_none] at uncounted
    refine ⟨.mismatch "expected a duration", ?_, rfl⟩
    simp only [readPast, uncounted, Halt.mismatch]

theorem not_mismatches_readFuture :
    ¬Primary.Mismatches (readFuture bound reference piece) more := by
  rintro ⟨error, failed, kind⟩
  have decided : error.isMismatch = false := by
    rw [readFuture_eq] at failed
    split at failed
    · next fault collected =>
        cases failed
        exact isMismatch_braced collected
    · exact isMismatch_ofEnclosed (map_eq_error.mp failed)
  rw [ParseError.isMismatch, kind] at decided
  contradiction

theorem ofEnclosed_eq_panic_iff {message : String} :
    ofEnclosed bound reference text = .error (.panic message) ↔
      message = "attempt to add with overflow" ∧ Span.Overflows (Text.trim text) := by
  have parsed := @Span.parse_eq_panic_iff (String.ofList (Text.trim text)) message
  rw [String.toList_ofList, Text.trim_trim] at parsed
  rw [← parsed, ofEnclosed]
  by_cases empty : Text.trim text = []
  · have nothing : Span.parse (String.ofList []) = .error (.failure .invalid) := by decide
    rw [empty, nothing]
    simp
  · simp only [List.isEmpty_iff, empty, if_false]
    rcases Span.parse (String.ofList (Text.trim text)) with (refusal | panicked) | span <;> simp

theorem readFuture_eq_panic_iff {message : String} :
    readFuture bound reference piece more = .error (.panic message) ↔
      message = "attempt to add with overflow" ∧
        ∃ text rest, braced 0 piece more = .ok (text, rest) ∧
          Span.Overflows (Text.trim text) := by
  rw [readFuture_eq]
  cases collected : braced 0 piece more with
  | error error => simp
  | ok answer =>
      rcases answer with ⟨text, rest⟩
      simp only [map_eq_error, ofEnclosed_eq_panic_iff]
      simp

theorem readPast_ne_panic {message : String} :
    readPast bound reference text more ≠ .error (.panic message) := by
  intro panicked
  unfold readPast past? at panicked
  grind [Halt.lift, map_eq_error]

theorem mismatches_readSigned_iff :
    Primary.Mismatches (readSigned bound reference text) more ↔
      text.head? ≠ some '\x7b' ∧ ¬Magnitude text := by
  by_cases bare : text.head? = some '\x7b'
  · rcases List.head?_eq_some_iff.mp bare with ⟨piece, rfl⟩
    have decided : ¬Primary.Mismatches (readSigned bound reference ('\x7b' :: piece)) more := by
      simp only [Primary.Mismatches, readSigned_brace]
      exact not_mismatches_readFuture
    simp [decided]
  · simp only [Primary.Mismatches, readSigned_of_bare bare]
    exact mismatches_readPast_iff.trans (iff_and_self.mpr fun _ => bare)

theorem suffix_of_readFuture (answered : readFuture bound reference piece more = .ok (test, rest)) :
    rest <:+ more := by
  rcases (settled_readFuture bound reference piece).isLocal answered with ⟨words, rfl, _⟩
  exact List.suffix_append words rest

theorem eq_of_readPast (answered : readPast bound reference text more = .ok (test, rest)) :
    rest = more := by
  unfold readPast at answered
  grind [map_eq_ok]

/-! ## The first token -/

theorem read_of_sign (spelled : token.toList = bound.sign :: text) :
    read reference (token :: more) = readSigned bound reference text more := by
  cases bound <;> simp [read, spelled, Bound.sign]

theorem read_of_other (spelled : token.toList = c :: text)
    (unsigned : ∀ bound : Bound, c ≠ bound.sign) :
    read reference (token :: more) =
      .error (if c.isDigit = false then .mismatch "expected a sign or a digit"
        else if (splitMagnitude? (c :: text)).isSome then
          .malformed s!"expected a + or - before {token}"
        else .mismatch "expected a duration") := by
  have plus : c ≠ '+' := unsigned .moreThan
  have hyphen : c ≠ '-' := unsigned .lessThan
  simp only [read, spelled]
  cases c.isDigit with
  | false => rfl
  | true => by_cases counted : (splitMagnitude? (c :: text)).isSome <;> simp [counted]

theorem isDigit_sign (bound : Bound) : bound.sign.isDigit = false := by
  cases bound <;> rfl

theorem atemporal_sign_iff :
    Atemporal (bound.sign :: text) ↔ text.head? ≠ some '\x7b' ∧ ¬Magnitude text := by
  constructor
  · intro atemporal
    generalize spelled : bound.sign :: text = whole at atemporal
    cases atemporal with
    | empty => contradiction
    | other plus hyphen letter =>
        cases bound with
        | moreThan => exact absurd (List.cons.inj spelled).1.symm plus
        | lessThan => exact absurd (List.cons.inj spelled).1.symm hyphen
    | unsigned digit uncounted =>
        rw [← (List.cons.inj spelled).1, isDigit_sign] at digit
        contradiction
    | signed bare uncounted =>
        rcases List.cons.inj spelled with ⟨_, rfl⟩
        exact ⟨bare, uncounted⟩
  · rintro ⟨bare, uncounted⟩
    exact .signed bare uncounted

theorem atemporal_other_iff (unsigned : ∀ bound : Bound, c ≠ bound.sign) :
    Atemporal (c :: text) ↔ c.isDigit = false ∨ ¬Magnitude (c :: text) := by
  constructor
  · intro atemporal
    cases atemporal with
    | other _ _ letter => exact .inl letter
    | unsigned _ uncounted => exact .inr uncounted
    | @signed bound _ bare uncounted => exact absurd rfl (unsigned bound)
  · have plus : c ≠ '+' := unsigned .moreThan
    have hyphen : c ≠ '-' := unsigned .lessThan
    rintro (letter | uncounted)
    · exact .other plus hyphen letter
    · by_cases digit : c.isDigit = true
      · exact .unsigned digit uncounted
      · exact .other plus hyphen (by simpa using digit)

theorem mismatches_read_iff :
    (read reference).Mismatches (token :: more) ↔ Atemporal token.toList := by
  cases spelled : token.toList with
  | nil => simp [Primary.Mismatches, read, spelled, ParseError.mismatch, Atemporal.empty]
  | cons c text =>
      by_cases signed : ∃ bound : Bound, c = bound.sign
      · rcases signed with ⟨bound, rfl⟩
        simp only [Primary.Mismatches, read_of_sign spelled]
        exact mismatches_readSigned_iff.trans atemporal_sign_iff.symm
      · have unsigned : ∀ bound : Bound, c ≠ bound.sign := not_exists.mp signed
        rw [atemporal_other_iff unsigned, ← isSome_splitMagnitude?_iff]
        simp only [Primary.Mismatches, read_of_other spelled unsigned]
        cases c.isDigit with
        | false => simp [ParseError.mismatch]
        | true =>
            by_cases counted : (splitMagnitude? (c :: text)).isSome <;>
              simp [counted, ParseError.mismatch, ParseError.malformed]

theorem rejects_of_magnitude (magnitude : Magnitude token.toList) :
    (read reference).Rejects (token :: more) := by
  cases spelled : token.toList with
  | nil =>
      rcases magnitude with ⟨digits, unit, _, _, written⟩
      rw [spelled] at written
      exact absurd written (by simp)
  | cons c text =>
      rw [spelled] at magnitude
      have digit := magnitude.head
      have unsigned : ∀ bound : Bound, c ≠ bound.sign := by
        rintro bound rfl
        rw [isDigit_sign] at digit
        contradiction
      refine ⟨.malformed s!"expected a + or - before {token}", ?_, rfl⟩
      rw [read_of_other spelled unsigned, digit, isSome_splitMagnitude?_iff.mpr magnitude]
      rfl

theorem suffix_of_read (answered : read reference (token :: more) = .ok (test, rest)) :
    rest <:+ more ∧ (¬Braced token.toList → rest = more) := by
  by_cases signed : ∃ (bound : Bound) (text : List Char), token.toList = bound.sign :: text
  · rcases signed with ⟨bound, text, spelled⟩
    rw [read_of_sign spelled] at answered
    by_cases bare : text.head? = some '\x7b'
    · rcases List.head?_eq_some_iff.mp bare with ⟨piece, rfl⟩
      rw [readSigned_brace] at answered
      have braced : Braced token.toList := ⟨bound, piece, spelled⟩
      exact ⟨suffix_of_readFuture answered, fun unbraced => absurd braced unbraced⟩
    · rw [readSigned_of_bare bare] at answered
      rcases eq_of_readPast answered with rfl
      exact ⟨List.suffix_refl _, fun _ => rfl⟩
  · cases spelled : token.toList with
    | nil => simp [read, spelled] at answered
    | cons c text =>
        have unsigned : ∀ bound : Bound, c ≠ bound.sign := by
          rintro bound rfl
          exact signed ⟨bound, text, spelled⟩
        rw [read_of_other spelled unsigned] at answered
        contradiction

theorem read_eq_panic_iff {message : String} :
    read reference (token :: more) = .error (.panic message) ↔
      message = "attempt to add with overflow" ∧ Overruns token more := by
  constructor
  · intro panicked
    by_cases signed : ∃ (bound : Bound) (text : List Char), token.toList = bound.sign :: text
    · rcases signed with ⟨bound, text, spelled⟩
      rw [read_of_sign spelled] at panicked
      by_cases bare : text.head? = some '\x7b'
      · rcases List.head?_eq_some_iff.mp bare with ⟨piece, rfl⟩
        rw [readSigned_brace] at panicked
        rcases readFuture_eq_panic_iff.mp panicked with ⟨same, text, rest, collected, overflows⟩
        exact ⟨same, bound, piece, text, rest, spelled, collected, overflows⟩
      · rw [readSigned_of_bare bare] at panicked
        exact absurd panicked readPast_ne_panic
    · cases spelled : token.toList with
      | nil => simp [read, spelled] at panicked
      | cons c text =>
          have unsigned : ∀ bound : Bound, c ≠ bound.sign := by
            rintro bound rfl
            exact signed ⟨bound, text, spelled⟩
          rw [read_of_other spelled unsigned] at panicked
          grind
  · rintro ⟨rfl, bound, piece, text, rest, spelled, collected, overflows⟩
    rw [read_of_sign spelled, readSigned_brace]
    exact readFuture_eq_panic_iff.mpr ⟨rfl, text, rest, collected, overflows⟩

/-- Whether tokens are left to other readings is decided by the first of them. A count without a
sign is rejected. All other tokens are rejected or accepted, and what is accepted leaves the tokens
that follow, all of them unless there are braces. The exception is a component between braces that
overruns the word it is counted in: there, and nowhere else, the reader panics. -/
theorem read_classifies (reference : Instant) :
    (∀ tokens, (read reference).Mismatches tokens ↔
      ∀ token ∈ tokens.head?, Atemporal token.toList) ∧
    ∀ (token : String) (more : List String),
      (Magnitude token.toList → (read reference).Rejects (token :: more)) ∧
      (¬Atemporal token.toList → ¬Overruns token more →
        (read reference).Rejects (token :: more) ∨
          ∃ test rest, read reference (token :: more) = .ok (test, rest) ∧ rest <:+ more ∧
            (¬Braced token.toList → rest = more)) ∧
      ∀ message, read reference (token :: more) = .error (.panic message) ↔
        message = "attempt to add with overflow" ∧ Overruns token more := by
  constructor
  · intro tokens
    cases tokens with
    | nil => simp [Primary.Mismatches, read, ParseError.mismatch]
    | cons token more => simpa using mismatches_read_iff
  · intro token more
    refine ⟨rejects_of_magnitude, ?_, fun _ => read_eq_panic_iff⟩
    intro temporal contained
    have decided : ¬(read reference).Mismatches (token :: more) :=
      mt mismatches_read_iff.mp temporal
    cases answered : read reference (token :: more) with
    | ok answer => exact .inr ⟨answer.1, answer.2, rfl, suffix_of_read answered⟩
    | error halt =>
        cases halt with
        | failure error =>
            left
            refine ⟨error, answered, ?_⟩
            cases kind : error.kind with
            | malformed => rfl
            | mismatch => exact absurd ⟨error, answered, kind⟩ decided
        | panic message => exact absurd (read_eq_panic_iff.mp answered).2 contained

theorem read_classifies_hours :
    (Magnitude "2h".toList ∧ (read ⟨0, 0⟩).Rejects ["2h", "-size"]) ∧
    ¬Atemporal "+2h".toList ∧ ¬Overruns "+2h" ["-size"] ∧ ¬Braced "+2h".toList ∧
    ∃ test, read ⟨0, 0⟩ ["+2h", "-size"] = .ok (test, ["-size"]) := by
  have counted : Magnitude "2h".toList := ⟨['2'], .hour, by decide, by simp, rfl⟩
  have given := read_classifies ⟨0, 0⟩
  have accepted : ¬(read ⟨0, 0⟩).Rejects ["+2h", "-size"] := Primary.not_rejects_of_ok rfl
  have temporal : ¬Atemporal "+2h".toList := by
    intro atemporal
    rcases (given.1 ["+2h"]).mpr (by simpa using atemporal) with ⟨error, failed, _⟩
    contradiction
  have unbraced : ¬Braced "+2h".toList := by
    rintro ⟨bound, piece, spelled⟩
    simp at spelled
  have contained : ¬Overruns "+2h" ["-size"] := by
    rintro ⟨bound, piece, text, rest, spelled, _⟩
    exact unbraced ⟨bound, piece, spelled⟩
  refine ⟨⟨counted, (given.2 "2h" ["-size"]).1 counted⟩, temporal, contained, unbraced, ?_⟩
  rcases (given.2 "+2h" ["-size"]).2.1 temporal contained with
    rejected | ⟨test, rest, answered, _, left⟩
  · exact absurd rejected accepted
  · rw [left unbraced] at answered
    exact ⟨test, answered⟩

/-- The token is for a test of a time, and it is neither rejected nor accepted. -/
theorem read_overrunning :
    ¬Atemporal "+\x7b340282366920938463463374607431768211455.9ns\x7d".toList ∧
    read ⟨0, 0⟩ ["+\x7b340282366920938463463374607431768211455.9ns\x7d"] =
      .error (.panic "attempt to add with overflow") := by
  have panicked : read ⟨0, 0⟩ ["+\x7b340282366920938463463374607431768211455.9ns\x7d"] =
      .error (.panic "attempt to add with overflow") := by
    apply read_eq_panic_iff.mpr
    refine ⟨rfl, .moreThan, _, "340282366920938463463374607431768211455.9ns".toList, [], rfl,
      ?_, ?_⟩
    · decide
    · exact Span.overflows_overrunning
  refine ⟨?_, panicked⟩
  intro atemporal
  rcases mismatches_read_iff.mpr atemporal with ⟨error, failed, _⟩
  cases panicked.symm.trans failed

end EntryTree.TimeTest
