import EntryTree.Proofs.Query.Amount

/-!
# Sizes

A size is a count in ASCII digits with a unit behind it, and stands for the bytes in so many units.
Digits of other scripts delimit a count and have no value, so a token with one of them is rejected
like a token of another shape or one for too many bytes. Counts are natural numbers of any length,
so a size that is accepted is compared exactly.
-/

namespace EntryTree

open Text

variable {digits suffix text : List Char} {unit amount : Nat} {comparison : Comparison}
  {token : String} {rest : List String}

/-- The letters behind a count, with the bytes in the unit that they stand for. -/
inductive SizeUnit : List Char → Nat → Prop
  | unwritten : SizeUnit [] 1
  | byte : SizeUnit ['c'] 1
  | kilo : SizeUnit ['k'] (2 ^ 10)
  | mega : SizeUnit ['M'] (2 ^ 20)
  | giga : SizeUnit ['G'] (2 ^ 30)
  | tera : SizeUnit ['T'] (2 ^ 40)
  | peta : SizeUnit ['P'] (2 ^ 50)

/-- A text writes a number of bytes: a count in ASCII digits, with a unit behind it. -/
inductive SizeText : List Char → Nat → Prop
  | counted {digits suffix : List Char} {unit : Nat} (present : digits ≠ [])
      (ascii : ∀ c ∈ digits, c.isDigit = true) (scale : SizeUnit suffix unit) :
      SizeText (digits ++ suffix) (decimal digits * unit)

/-- A token asks for sizes that relate to a number of bytes, which fits a word of 64 bits. -/
inductive SizeToken : String → Comparison → Nat → Prop
  | signed {token : String} {comparison : Comparison} {text : List Char} {amount : Nat}
      (spelled : token.toList = comparison.sign ++ text) (written : SizeText text amount)
      (fits : amount ≤ 2 ^ 64 - 1) : SizeToken token comparison amount

theorem sizeUnit?_eq_some_iff : sizeUnit? suffix = some unit ↔ SizeUnit suffix unit := by
  constructor
  · intro read
    unfold sizeUnit? at read
    split at read
    all_goals first | contradiction | rcases Option.some.inj read with rfl
    · exact .unwritten
    · exact .byte
    · exact .kilo
    · exact .mega
    · exact .giga
    · exact .tera
    · exact .peta
  · rintro ⟨⟩ <;> rfl

namespace SizeUnit

theorem pos (scale : SizeUnit suffix unit) : 0 < unit := by
  cases scale <;> decide

theorem head (scale : SizeUnit suffix unit) : ∀ c ∈ suffix.head?, isDecimalDigit c = false := by
  intro c first
  cases scale with
  | unwritten => contradiction
  | byte | kilo | mega | giga | tera | peta =>
      rcases first with ⟨⟩
      decide

end SizeUnit

theorem SizeText.unsigned (written : SizeText text amount) :
    ∀ c ∈ text.head?, c ≠ '+' ∧ c ≠ '-' := by
  rcases written with ⟨present, ascii, scale⟩
  rename_i digits suffix unit
  rcases List.exists_cons_of_ne_nil present with ⟨first, others, rfl⟩
  have digit := ascii first List.mem_cons_self
  rintro _ ⟨⟩
  constructor <;> rintro rfl <;> contradiction

/-! ## Reading -/

/-- The test that a size relates to a number of bytes. -/
def sizeTest (comparison : Comparison) (amount : Nat) : Predicate Id Nat :=
  .atomic fun size => comparison.holds size (amount : Int)

theorem Comparison.relates_natCast {value amount : Nat} :
    comparison.Relates (value : Int) (amount : Int) ↔ comparison.Relates value amount := by
  cases comparison <;> simp [Relates]

theorem holds_sizeTest_iff {size : Nat} :
    (sizeTest comparison amount).holds size = true ↔ comparison.Relates size amount :=
  comparison.holds_iff_relates.trans Comparison.relates_natCast

theorem scan_counted (ascii : ∀ c ∈ digits, c.isDigit = true) (scale : SizeUnit suffix unit) :
    (digits ++ suffix).takeWhile isDecimalDigit = digits ∧
      (digits ++ suffix).dropWhile isDecimalDigit = suffix := by
  have counted : Digits digits := fun c member => isDecimalDigit_of_isDigit (ascii c member)
  rcases scan_of_head scale.head with ⟨taken, dropped⟩
  rw [List.takeWhile_append_of_pos counted, List.dropWhile_append_of_pos counted, taken, dropped,
    List.append_nil]
  exact ⟨rfl, rfl⟩

theorem sizeComparison_of_written (spelled : token.toList = comparison.sign ++ text)
    (written : SizeText text amount) (rest : List String) :
    sizeComparison (token :: rest) =
      if amount ≤ 2 ^ 64 - 1 then .ok (sizeTest comparison amount, rest)
      else .error (.malformed s!"size {token} is too large") := by
  have split := comparison.split_sign_append written.unsigned
  rcases written with ⟨present, ascii, scale⟩
  rename_i digits suffix unit
  rcases scan_counted ascii scale with ⟨taken, dropped⟩
  have counted : digits.isEmpty = false := by simpa using present
  have value := natural?_of_readable present ascii
  rw [appendDigits_zero] at value
  simp only [sizeComparison, spelled, split, taken, dropped, sizeUnit?_eq_some_iff.mpr scale,
    counted, value, Bool.false_eq_true, if_false]
  have within : decimal digits ≤ decimal digits * unit := Nat.le_mul_of_pos_right _ scale.pos
  by_cases fits : decimal digits * unit ≤ 2 ^ 64 - 1
  · rw [if_neg, if_pos fits]
    · rfl
    · simp only [maxSize]
      omega
  · rw [if_pos, if_neg fits]
    simp only [maxSize]
    omega

/-- A token is for a size, or it is rejected for good. -/
theorem rejects_of_unwritten (unwritten : ∀ comparison text amount,
    token.toList = Comparison.sign comparison ++ text → ¬SizeText text amount)
    (rest : List String) : Primary.Rejects sizeComparison (token :: rest) := by
  have spelled := (Comparison.sign_append_split token.toList).symm
  generalize parts : Comparison.split token.toList = halves at spelled
  rcases halves with ⟨comparison, text⟩
  have whole : text.takeWhile isDecimalDigit ++ text.dropWhile isDecimalDigit = text :=
    List.takeWhile_append_dropWhile
  simp only [Primary.Rejects, sizeComparison, parts]
  cases scale : sizeUnit? (text.dropWhile isDecimalDigit) with
  | none => exact ⟨_, rfl, rfl⟩
  | some unit =>
      by_cases present : text.takeWhile isDecimalDigit = []
      · simp only [present, List.isEmpty_nil, if_true]
        exact ⟨_, rfl, rfl⟩
      · by_cases ascii : ∀ c ∈ text.takeWhile isDecimalDigit, c.isDigit = true
        · have written := SizeText.counted present ascii (sizeUnit?_eq_some_iff.mp scale)
          rw [whole] at written
          exact absurd written (unwritten comparison text _ spelled)
        · have counted : (text.takeWhile isDecimalDigit).isEmpty = false := by simpa using present
          simp only [counted, natural?_of_not_readable ascii, Bool.false_eq_true, if_false]
          exact ⟨_, rfl, rfl⟩

theorem sizeComparison_of_token (asks : SizeToken token comparison amount) (rest : List String) :
    sizeComparison (token :: rest) = .ok (sizeTest comparison amount, rest) := by
  rcases asks with ⟨spelled, written, fits⟩
  rw [sizeComparison_of_written spelled written, if_pos fits]

theorem rejects_of_not_token (unasked : ∀ comparison amount, ¬SizeToken token comparison amount)
    (rest : List String) : Primary.Rejects sizeComparison (token :: rest) := by
  by_cases shaped : ∃ comparison text amount,
      token.toList = Comparison.sign comparison ++ text ∧ SizeText text amount
  · rcases shaped with ⟨comparison, text, amount, spelled, written⟩
    have exceeds : ¬amount ≤ 2 ^ 64 - 1 := by
      intro fits
      exact unasked comparison amount ⟨spelled, written, fits⟩
    refine ⟨.malformed s!"size {token} is too large", ?_, rfl⟩
    rw [sizeComparison_of_written spelled written, if_neg exceeds]
    rfl
  · apply rejects_of_unwritten
    intro comparison text amount spelled written
    exact shaped ⟨comparison, text, amount, spelled, written⟩

/-! ## Snapshots -/

namespace Clause

/-- The clause that the size of an entry relates to a number of bytes. -/
def sizeRelates (comparison : Comparison) (amount : Nat) : Clause :=
  .plain ((sizeTest comparison amount).lift fun snapshot => snapshot.attributes.size)

theorem size_of_token (asks : SizeToken token comparison amount) (rest : List String) :
    size (token :: rest) = .ok (sizeRelates comparison amount, rest) := by
  rw [size, Primary.map, sizeComparison_of_token asks]
  rfl

theorem holds_sizeRelates_iff {snapshot : Snapshot} :
    (sizeRelates comparison amount).test.holds snapshot = true ↔
      ∃ bytes, snapshot.attributes.size = some bytes ∧ comparison.Relates bytes amount := by
  simp only [sizeRelates, plain, Predicate.holds_lift_iff, holds_sizeTest_iff]

end Clause

theorem Comparison.existsUnique_relates (value amount : Nat) :
    ∃! comparison : Comparison, comparison.Relates value amount := by
  rcases Nat.lt_trichotomy value amount with below | same | above
  · refine ⟨.less, below, ?_⟩
    rintro (_ | _ | _) relates
    · exact absurd relates below.not_gt
    · rfl
    · exact absurd relates below.ne
  · refine ⟨.equal, same, ?_⟩
    rintro (_ | _ | _) relates
    · exact absurd same (Nat.ne_of_gt relates)
    · exact absurd same (Nat.ne_of_lt relates)
    · rfl
  · refine ⟨.greater, above, ?_⟩
    rintro (_ | _ | _) relates
    · rfl
    · exact absurd relates above.not_gt
    · exact absurd relates above.ne'

/-- A token is accepted as a size if it writes one that fits a word of 64 bits, and rejected for
good otherwise. The clause of a size compares the bytes of an entry as natural numbers, so of the
three comparisons with one size each entry of known size passes exactly one, and an entry of unknown
size passes none. -/
theorem sizeComparison_exact (rest : List String) :
    (∀ token, (∃ answer, sizeComparison (token :: rest) = .ok answer) ↔
      ∃ comparison amount, SizeToken token comparison amount) ∧
    (∀ token, (∀ comparison amount, ¬SizeToken token comparison amount) →
      Primary.Rejects sizeComparison (token :: rest)) ∧
    (∀ token comparison amount, SizeToken token comparison amount →
      ∃ clause, Clause.size (token :: rest) = .ok (clause, rest) ∧
        ∀ snapshot, clause.test.holds snapshot = true ↔
          ∃ bytes, snapshot.attributes.size = some bytes ∧ comparison.Relates bytes amount) ∧
    ∀ text amount, SizeText text amount → amount ≤ 2 ^ 64 - 1 →
      ∃ clauses : Comparison → Clause,
        (∀ comparison, Clause.size (String.ofList (comparison.sign ++ text) :: rest) =
          .ok (clauses comparison, rest)) ∧
        ∀ snapshot,
          (snapshot.attributes.size.isSome = true →
            ∃! comparison, (clauses comparison).test.holds snapshot = true) ∧
          (snapshot.attributes.size = none →
            ∀ comparison, (clauses comparison).test.holds snapshot = false) := by
  refine ⟨?_, ?_, ?_, ?_⟩
  · intro token
    constructor
    · rintro ⟨answer, answered⟩
      by_contra unasked
      push Not at unasked
      exact Primary.not_rejects_of_ok answered (rejects_of_not_token unasked rest)
    · rintro ⟨comparison, amount, asks⟩
      exact ⟨_, sizeComparison_of_token asks rest⟩
  · intro token unasked
    exact rejects_of_not_token unasked rest
  · intro token comparison amount asks
    refine ⟨_, Clause.size_of_token asks rest, ?_⟩
    intro snapshot
    exact Clause.holds_sizeRelates_iff
  · intro text amount written fits
    refine ⟨fun comparison => .sizeRelates comparison amount, ?_, ?_⟩
    · intro comparison
      exact Clause.size_of_token ⟨String.toList_ofList, written, fits⟩ rest
    · intro snapshot
      constructor
      · intro known
        rcases Option.isSome_iff_exists.mp known with ⟨bytes, known⟩
        simpa [Clause.holds_sizeRelates_iff, known] using
          Comparison.existsUnique_relates bytes amount
      · intro unknown comparison
        rw [← Bool.not_eq_true, Clause.holds_sizeRelates_iff]
        rintro ⟨bytes, known, _⟩
        rw [unknown] at known
        contradiction

/-- The largest size in the largest unit, the next one, and a byte more than the smallest unit. -/
theorem sizeComparison_exact_peta :
    (SizeToken "-016383P" .less (16383 * 2 ^ 50) ∧
      ∃ answer, sizeComparison ["-016383P"] = .ok answer) ∧
    ((∀ comparison amount, ¬SizeToken "16384P" comparison amount) ∧
      Primary.Rejects sizeComparison ["16384P"]) ∧
    (SizeToken "+1k" .greater (1 * 2 ^ 10) ∧
      ∃ clause, Clause.size ["+1k"] = .ok (clause, []) ∧
        clause.test.holds { attributes := { size := some 1025 } } = true) ∧
    SizeText ['1', 'k'] (1 * 2 ^ 10) ∧
      ∃ clauses : Comparison → Clause,
        Clause.size [String.ofList (Comparison.sign .equal ++ ['1', 'k'])] =
          .ok (clauses .equal, []) ∧
        ∃! comparison,
          (clauses comparison).test.holds { attributes := { size := some 1023 } } = true := by
  have exact := sizeComparison_exact []
  have thousand : SizeText ['1', 'k'] (1 * 2 ^ 10) := by
    have ascii : ∀ c ∈ ['1'], c.isDigit = true := by simp
    exact .counted (by decide) ascii .kilo
  have peta : SizeToken "-016383P" .less (16383 * 2 ^ 50) := by
    have ascii : ∀ c ∈ ['0', '1', '6', '3', '8', '3'], c.isDigit = true := by simp
    have written : SizeText ['0', '1', '6', '3', '8', '3', 'P'] (16383 * 2 ^ 50) :=
      .counted (by decide) ascii .peta
    exact ⟨by decide, written, by simp⟩
  have more : SizeToken "+1k" .greater (1 * 2 ^ 10) := ⟨by decide, thousand, by simp⟩
  have unasked : ∀ comparison amount, ¬SizeToken "16384P" comparison amount := by
    intro comparison amount asks
    rcases (exact.1 "16384P").mpr ⟨comparison, amount, asks⟩ with ⟨answer, answered⟩
    contradiction
  rcases exact.2.2.1 _ _ _ more with ⟨clause, compiled, holds⟩
  rcases exact.2.2.2 _ _ thousand (by simp) with ⟨clauses, written, decided⟩
  refine ⟨⟨peta, (exact.1 _).mpr ⟨_, _, peta⟩⟩, ⟨unasked, exact.2.1 _ unasked⟩,
    ⟨more, clause, compiled, ?_⟩, thousand, clauses, written .equal, (decided _).1 rfl⟩
  rw [holds]
  refine ⟨1025, rfl, ?_⟩
  simp [Comparison.Relates]

end EntryTree
