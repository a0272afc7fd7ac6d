import EntryTree.Proofs.Query.Amount

/-!
# What a value is compared as

The token behind a key path is a test of a time, or else a number, or else a word for a value, or
else a text. Each reading leaves to the next one what is not for it, so for a token whose digits are
all in ASCII the readings do not overlap: where it is no test of a time, what it writes says which
values pass, and only values of one kind do.
-/

namespace EntryTree

open Text

/-! ## Alternatives -/

namespace Primary

variable {β : Type} {chosen : Primary β} {earlier others : List (Primary β)} {expected : String}
  {tokens : List String}

/-- Alternatives answer like the first one that does not leave the tokens to others. -/
theorem firstOf_append (left : ∀ primary ∈ earlier, Primary.Mismatches primary tokens)
    (decides : ¬chosen.Mismatches tokens) :
    firstOf expected (earlier ++ chosen :: others) tokens = chosen tokens := by
  induction earlier with
  | nil =>
      rw [List.nil_append, firstOf]
      cases answered : chosen tokens with
      | ok answer => rfl
      | error halt =>
          have kept : halt.isMismatch = false := by
            cases halt with
            | failure error =>
                rw [← Bool.not_eq_true, Halt.isMismatch, ParseError.isMismatch, beq_iff_eq]
                intro kind
                exact decides ⟨error, answered, kind⟩
            | panic message => rfl
          simp only [kept, Bool.false_eq_true, if_false]
  | cons primary earlier ih =>
      rw [List.forall_mem_cons] at left
      rcases left.1 with ⟨error, failed, kind⟩
      have passed : (Halt.failure error).isMismatch = true := by
        simp [Halt.isMismatch, ParseError.isMismatch, kind]
      rw [List.cons_append, firstOf, failed]
      simp only [passed, if_true]
      exact ih left.2

end Primary

/-! ## What tokens write -/

/-- The digits in a token, of whatever script they are, are in ASCII. -/
def NativeDigits (token : String) : Prop :=
  ∀ c ∈ token.toList, isDecimalDigit c = true → c.isDigit = true

/-- A token asks for numbers that relate to a bound: there may be a sign, and the bound is the
double nearest to what is written with digits in ASCII, which may have a point in front of the last
ones. -/
inductive NumberToken : String → Comparison → Binary64 → Prop
  | signed {token : String} {comparison : Comparison} {whole fraction amount : List Char}
      (spelled : token.toList = comparison.sign ++ amount)
      (written : Amount whole fraction amount)
      (ascii : ∀ c ∈ whole ++ fraction, c.isDigit = true) :
      NumberToken token comparison (.ofDecimal (decimal (whole ++ fraction)) fraction.length)

/-- A token is the word for a value. -/
inductive WordToken : String → Json → Prop
  | truth : WordToken "true" (.bool true)
  | falsity : WordToken "false" (.bool false)
  | null : WordToken "null" .null

variable {token : String} {comparison : Comparison} {bound : Binary64} {found word : Json}
  {reference : Instant} {rest : List String}

theorem Amount.mem {whole fraction text : List Char} (written : Amount whole fraction text) :
    ∀ c ∈ whole ++ fraction, c ∈ text := by
  intro c member
  cases written with
  | whole present digits => simpa using member
  | fractional before present behind =>
      rw [List.mem_append] at member ⊢
      exact member.imp_right (List.mem_cons_of_mem _)

theorem numericComparison_of_token (asks : NumberToken token comparison bound)
    (rest : List String) :
    numericComparison (token :: rest) = .ok (boundTest comparison bound, rest) := by
  rcases asks with ⟨spelled, written, ascii⟩
  exact numericComparison_of_ascii spelled written ascii rest

theorem mismatches_numericComparison (native : NativeDigits token)
    (unasked : ∀ comparison bound, ¬NumberToken token comparison bound) (rest : List String) :
    Primary.Mismatches numericComparison (token :: rest) := by
  have spelled := (Comparison.sign_append_split token.toList).symm
  cases read : numberParts? (Comparison.split token.toList).2 with
  | none => exact mismatches_of_numberParts? read rest
  | some parts =>
      have written := numberParts?_eq_some_iff.mp read
      have ascii : ∀ c ∈ parts.1 ++ parts.2, c.isDigit = true := by
        intro c member
        apply native c
        · rw [spelled]
          exact List.mem_append_right _ (written.mem c member)
        · exact written.digits.2 c member
      exact absurd (.signed spelled written ascii) (unasked _ _)

theorem holds_boundTest_iff :
    (boundTest comparison bound).holds found = true ↔
      ∃ number, found = .number number ∧
        comparison.Relates number.toBinary64.order bound.order := by
  simp only [← Comparison.holds_iff_relates]
  cases found with
  | number number => simp [boundTest, Json.number?]
  | null | bool | text | array | object => simp [boundTest, Json.number?]

namespace Clause

theorem literal_of_word (names : WordToken token word) (rest : List String) :
    ∃ test, literal (token :: rest) = .ok (test, rest) ∧
      ∀ found, test.holds found = true ↔ found = word := by
  cases names with
  | truth =>
      refine ⟨_, rfl, ?_⟩
      intro found
      cases found <;> simp [Json.bool?]
  | falsity =>
      refine ⟨_, rfl, ?_⟩
      intro found
      cases found <;> simp [Json.bool?]
  | null =>
      refine ⟨_, rfl, ?_⟩
      intro found
      cases found <;> simp [Json.isNull]

theorem mismatches_literal (unnamed : ∀ word, ¬WordToken token word) (rest : List String) :
    Primary.Mismatches literal (token :: rest) := by
  unfold Primary.Mismatches literal
  split
  · next same =>
      rcases List.cons.inj same with ⟨rfl, _⟩
      exact absurd .truth (unnamed _)
  · next same =>
      rcases List.cons.inj same with ⟨rfl, _⟩
      exact absurd .falsity (unnamed _)
  · next same =>
      rcases List.cons.inj same with ⟨rfl, _⟩
      exact absurd .null (unnamed _)
  · exact ⟨_, rfl, rfl⟩

theorem text_of_token (token : String) (rest : List String) :
    ∃ test, text (token :: rest) = .ok (test, rest) ∧
      ∀ found, test.holds found = true ↔ found = .text token := by
  refine ⟨_, rfl, ?_⟩
  intro found
  cases found <;> simp [Json.text?]

end Clause

namespace TimeTest

theorem mismatches_primary_iff {α : Type} {instant? : α → Option Instant} {tokens : List String} :
    (primary reference instant?).Mismatches tokens ↔ (read reference).Mismatches tokens :=
  Primary.mismatches_map

theorem primary_of_ok {α : Type} (instant? : α → Option Instant) {tokens left : List String}
    {test : TimeTest} (answered : read reference tokens = .ok (test, left)) :
    ∃ predicate, primary reference instant? tokens = .ok (predicate, left) ∧
      ∀ subject, predicate.holds subject = true ↔
        ∃ instant, instant? subject = some instant ∧ test.holds instant = true := by
  rw [primary, Primary.map, answered]
  refine ⟨_, rfl, ?_⟩
  intro subject
  rw [Predicate.holds_atomic]
  cases instant? subject with
  | none => simp
  | some instant => simp

end TimeTest

/-! ## The reading that decides -/

namespace Clause

theorem value_of_temporal (decides : ¬(TimeTest.read reference).Mismatches (token :: rest)) :
    value reference (token :: rest) =
      TimeTest.primary reference Json.instant? (token :: rest) := by
  rw [value]
  exact Primary.firstOf_append (List.forall_mem_nil _)
    (mt TimeTest.mismatches_primary_iff.mp decides)

theorem value_of_number (atemporal : (TimeTest.read reference).Mismatches (token :: rest))
    (asks : NumberToken token comparison bound) :
    value reference (token :: rest) = .ok (boundTest comparison bound, rest) := by
  have answered := numericComparison_of_token asks rest
  have earlier : ∀ primary ∈ [TimeTest.primary reference Json.instant?],
      Primary.Mismatches primary (token :: rest) := by
    simpa using TimeTest.mismatches_primary_iff.mpr atemporal
  rw [← answered, value]
  exact Primary.firstOf_append earlier (Primary.not_mismatches_of_ok answered)

theorem value_of_word (atemporal : (TimeTest.read reference).Mismatches (token :: rest))
    (names : WordToken token word) :
    value reference (token :: rest) = literal (token :: rest) := by
  have unnumbered : Primary.Mismatches numericComparison (token :: rest) := by
    cases names <;> exact ⟨_, rfl, rfl⟩
  have earlier : ∀ primary ∈ [TimeTest.primary reference Json.instant?, numericComparison],
      Primary.Mismatches primary (token :: rest) := by
    simpa using ⟨TimeTest.mismatches_primary_iff.mpr atemporal, unnumbered⟩
  rcases literal_of_word names rest with ⟨test, answered, _⟩
  rw [value]
  exact Primary.firstOf_append earlier (Primary.not_mismatches_of_ok answered)

theorem value_of_text (atemporal : (TimeTest.read reference).Mismatches (token :: rest))
    (native : NativeDigits token)
    (unnumbered : ∀ comparison bound, ¬NumberToken token comparison bound)
    (unnamed : ∀ word, ¬WordToken token word) :
    value reference (token :: rest) = text (token :: rest) := by
  have earlier :
      ∀ primary ∈ [TimeTest.primary reference Json.instant?, numericComparison, literal],
        Primary.Mismatches primary (token :: rest) := by
    simpa using ⟨TimeTest.mismatches_primary_iff.mpr atemporal,
      mismatches_numericComparison native unnumbered rest, mismatches_literal unnamed rest⟩
  rcases text_of_token token rest with ⟨test, answered, _⟩
  rw [value]
  exact Primary.firstOf_append earlier (Primary.not_mismatches_of_ok answered)

/-- A token that is no test of a time is taken alone, whatever it writes. -/
theorem value_of_atemporal (atemporal : (TimeTest.read reference).Mismatches (token :: rest))
    (native : NativeDigits token) :
    ∃ test, value reference (token :: rest) = .ok (test, rest) := by
  by_cases numbered : ∃ comparison bound, NumberToken token comparison bound
  · rcases numbered with ⟨comparison, bound, asks⟩
    exact ⟨_, value_of_number atemporal asks⟩
  · by_cases named : ∃ word, WordToken token word
    · rcases named with ⟨word, names⟩
      rcases literal_of_word names rest with ⟨test, answered, _⟩
      exact ⟨test, (value_of_word atemporal names).trans answered⟩
    · push Not at numbered named
      rcases text_of_token token rest with ⟨test, answered, _⟩
      exact ⟨test, (value_of_text atemporal native numbered named).trans answered⟩

/-- Values are compared with a token whose digits are all in ASCII in one way only. If it begins a
test of a time, the test decides, and timestamps are what it holds of; if the test is malformed, so
is the comparison, and if reading it panics, nothing else is tried. Otherwise the token is taken
alone: a number is compared with numbers as doubles, a word is the one value that it is the word
for, and everything else is the text that it is. -/
theorem value_partitions (reference : Instant) (token : String) (rest : List String)
    (native : NativeDigits token) :
    (∀ test left, TimeTest.read reference (token :: rest) = .ok (test, left) →
      ∃ predicate, value reference (token :: rest) = .ok (predicate, left) ∧
        ∀ found, predicate.holds found = true ↔
          ∃ stamp instant, found = .text stamp ∧ Instant.ofTimestamp? stamp = some instant ∧
            test.holds instant = true) ∧
    (∀ error, TimeTest.read reference (token :: rest) = .error (.failure error) →
      error.kind = .malformed → value reference (token :: rest) = .error (.failure error)) ∧
    (∀ message, TimeTest.read reference (token :: rest) = .error (.panic message) →
      value reference (token :: rest) = .error (.panic message)) ∧
    ((TimeTest.read reference).Mismatches (token :: rest) →
      ∃ predicate, value reference (token :: rest) = .ok (predicate, rest) ∧
        (∀ comparison bound, NumberToken token comparison bound →
          ∀ found, predicate.holds found = true ↔
            ∃ number, found = .number number ∧
              comparison.Relates number.toBinary64.order bound.order) ∧
        (∀ word, WordToken token word → ∀ found, predicate.holds found = true ↔ found = word) ∧
        ((∀ comparison bound, ¬NumberToken token comparison bound) →
          (∀ word, ¬WordToken token word) →
            ∀ found, predicate.holds found = true ↔ found = .text token)) := by
  refine ⟨?_, ?_, ?_, ?_⟩
  · intro test left answered
    rcases TimeTest.primary_of_ok Json.instant? answered with ⟨predicate, taken, holds⟩
    have decides := Primary.not_mismatches_of_ok answered
    refine ⟨predicate, (value_of_temporal decides).trans taken, ?_⟩
    intro found
    rw [holds]
    cases found <;> simp [Json.instant?, Json.text?]
  · intro error failed kind
    have decides : ¬(TimeTest.read reference).Mismatches (token :: rest) := by
      rintro ⟨fault, again, other⟩
      rcases Halt.failure.inj (Except.error.inj (failed.symm.trans again)) with rfl
      rw [kind] at other
      contradiction
    rw [value_of_temporal decides, TimeTest.primary, Primary.map, failed]
    rfl
  · intro message panicked
    have decides : ¬(TimeTest.read reference).Mismatches (token :: rest) := by
      rintro ⟨fault, failed, _⟩
      cases panicked.symm.trans failed
    rw [value_of_temporal decides, TimeTest.primary, Primary.map, panicked]
    rfl
  · intro atemporal
    rcases value_of_atemporal atemporal native with ⟨predicate, taken⟩
    have same {test : Predicate Id Json}
        (answered : value reference (token :: rest) = .ok (test, rest)) : predicate = test :=
      (Prod.mk.inj (Except.ok.inj (taken.symm.trans answered))).1
    refine ⟨predicate, taken, ?_, ?_, ?_⟩
    · intro comparison bound asks found
      rw [same (value_of_number atemporal asks)]
      exact holds_boundTest_iff
    · intro word names
      rcases literal_of_word names rest with ⟨test, answered, holds⟩
      rw [same ((value_of_word atemporal names).trans answered)]
      exact holds
    · intro unnumbered unnamed
      rcases text_of_token token rest with ⟨test, answered, holds⟩
      rw [same ((value_of_text atemporal native unnumbered unnamed).trans answered)]
      exact holds

/-- A number, a word, a text, and tests of a time, one of which is malformed. -/
theorem value_partitions_readings :
    (NumberToken "-2.5" .less (.ofDecimal (decimal ['2', '5']) 1) ∧
      ∃ predicate, value ⟨0, 0⟩ ["-2.5", "-size"] = .ok (predicate, ["-size"]) ∧
        predicate.holds (.int 2) = true ∧ ¬predicate.holds (.text "-2.5") = true) ∧
    (∃ predicate, value ⟨0, 0⟩ ["true"] = .ok (predicate, []) ∧
      ∀ found, predicate.holds found = true ↔ found = .bool true) ∧
    (∃ predicate, value ⟨0, 0⟩ ["2x"] = .ok (predicate, []) ∧
      ∀ found, predicate.holds found = true ↔ found = .text "2x") ∧
    (∃ predicate, value ⟨0, 0⟩ ["+2h", "-size"] = .ok (predicate, ["-size"]) ∧
      predicate.holds (.text "1969-12-31T21:00:00Z") = true) ∧
    ∃ error, value ⟨0, 0⟩ ["2h"] = .error (.failure error) ∧ error.kind = .malformed := by
  have native (token : String)
      (plain : (token.toList.all fun c => !isDecimalDigit c || c.isDigit) = true) :
      NativeDigits token := by
    intro c member digit
    simpa [digit] using List.all_eq_true.mp plain c member
  refine ⟨?_, ?_, ?_, ?_, ?_⟩
  · have number : NumberToken "-2.5" .less (.ofDecimal (decimal ['2', '5']) 1) := by
      have before : Digits ['2'] := List.forall_mem_singleton.mpr (by decide)
      have behind : Digits ['5'] := List.forall_mem_singleton.mpr (by decide)
      have ascii : ∀ c ∈ ['2'] ++ ['5'], c.isDigit = true := by simp
      have spelled : "-2.5".toList = Comparison.sign .less ++ (['2'] ++ '.' :: ['5']) := by decide
      have asks := NumberToken.signed spelled (.fractional before (by decide) behind) ascii
      exact asks
    have atemporal : (TimeTest.read ⟨0, 0⟩).Mismatches ["-2.5", "-size"] := ⟨_, rfl, rfl⟩
    rcases (value_partitions ⟨0, 0⟩ _ _ (native _ (by decide))).2.2.2 atemporal with
      ⟨predicate, taken, holds, _⟩
    refine ⟨number, predicate, taken, ?_, ?_⟩
    · rw [holds _ _ number]
      refine ⟨.integer 2, rfl, ?_⟩
      change (Binary64.ofInt 2).order < (Binary64.ofDecimal (decimal ['2', '5']) 1).order
      decide +kernel
    · rw [holds _ _ number]
      rintro ⟨number, ⟨⟩, _⟩
  · have atemporal : (TimeTest.read ⟨0, 0⟩).Mismatches ["true"] := ⟨_, rfl, rfl⟩
    rcases (value_partitions ⟨0, 0⟩ _ _ (native _ (by decide))).2.2.2 atemporal with
      ⟨predicate, taken, _, holds, _⟩
    exact ⟨predicate, taken, holds _ .truth⟩
  · have atemporal : (TimeTest.read ⟨0, 0⟩).Mismatches ["2x"] := ⟨_, rfl, rfl⟩
    have unnumbered : Primary.Mismatches numericComparison ["2x"] := ⟨_, rfl, rfl⟩
    have unnamed : Primary.Mismatches literal ["2x"] := ⟨_, rfl, rfl⟩
    rcases (value_partitions ⟨0, 0⟩ _ _ (native _ (by decide))).2.2.2 atemporal with
      ⟨predicate, taken, _, _, holds⟩
    refine ⟨predicate, taken, holds ?_ ?_⟩
    · intro comparison bound asks
      exact Primary.not_mismatches_of_ok (numericComparison_of_token asks []) unnumbered
    · intro word names
      rcases literal_of_word names [] with ⟨test, answered, _⟩
      exact Primary.not_mismatches_of_ok answered unnamed
  · rcases (value_partitions ⟨0, 0⟩ "+2h" ["-size"] (native _ (by decide))).1 _ _ rfl with
      ⟨predicate, taken, holds⟩
    refine ⟨predicate, taken, (holds _).mpr ⟨_, ⟨-10800, 0⟩, rfl, ?_, ?_⟩⟩
    · decide +kernel
    · decide +kernel
  · have malformed : ∃ error, TimeTest.read ⟨0, 0⟩ ["2h"] = .error (.failure error) ∧
        error.kind = .malformed := ⟨_, rfl, rfl⟩
    rcases malformed with ⟨error, failed, kind⟩
    exact ⟨error, (value_partitions ⟨0, 0⟩ "2h" [] (native _ (by decide))).2.1 _ failed kind, kind⟩

end Clause
end EntryTree
