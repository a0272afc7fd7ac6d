import EntryTree.Text.Blank
import EntryTree.Text.DecimalDigit
import Mathlib.Data.List.DropRight
import Mathlib.Data.List.TakeWhile
import Mathlib.Data.Nat.Digits.Defs

/-!
# Blanks and digits

How texts split into blanks and what they surround, and what digits denote. Digits of every script
delimit numbers, and only those in ASCII have a value.
-/

namespace EntryTree.Text

theorem bne_of_not_mem {c : Char} {text : List Char} (absent : c ∉ text) :
    ∀ d ∈ text, (d != c) = true := by
  intro d member
  rw [bne_iff_ne]
  rintro rfl
  contradiction

/-- A scan takes nothing off a text whose first character ends it. -/
theorem scan_of_head {p : Char → Bool} {text : List Char} (ends : ∀ c ∈ text.head?, p c = false) :
    text.takeWhile p = [] ∧ text.dropWhile p = text := by
  cases text with
  | nil => exact ⟨rfl, rfl⟩
  | cons c rest =>
      have stops : p c = false := ends c rfl
      simp [stops]

/-! ## Blanks -/

/-- A list of blanks. -/
abbrev Blank (text : List Char) : Prop :=
  ∀ c ∈ text, isBlank c = true

/-- A list of decimal digits of any script. -/
abbrev Digits (text : List Char) : Prop :=
  ∀ c ∈ text, isDecimalDigit c = true

/-- The code points of blanks. -/
def blankCodes : List Nat :=
  [0x9, 0xA, 0xB, 0xC, 0xD, 0x20, 0x85, 0xA0, 0x1680, 0x2000, 0x2001, 0x2002, 0x2003, 0x2004,
    0x2005, 0x2006, 0x2007, 0x2008, 0x2009, 0x200A, 0x2028, 0x2029, 0x202F, 0x205F, 0x3000]

theorem mem_blankCodes {c : Char} (blank : isBlank c = true) : c.toNat ∈ blankCodes := by
  simp only [isBlank, Bool.or_eq_true, Bool.and_eq_true, beq_iff_eq, decide_eq_true_eq] at blank
  simp only [blankCodes, List.mem_cons, List.not_mem_nil, or_false]
  omega

theorem isDecimalDigit_of_isBlank {c : Char} (blank : isBlank c = true) :
    isDecimalDigit c = false := by
  have apart : ∀ code ∈ blankCodes,
      digitZeros.any (fun first => first ≤ code && code < first + 10) = false := by decide
  exact apart _ (mem_blankCodes blank)

theorem isBlank_of_isDecimalDigit {c : Char} (digit : isDecimalDigit c = true) :
    isBlank c = false := by
  rw [← Bool.not_eq_true]
  intro blank
  rw [isDecimalDigit_of_isBlank blank] at digit
  contradiction

theorem trimFront_append {blanks : List Char} (blank : Blank blanks) (text : List Char) :
    trimFront (blanks ++ text) = trimFront text :=
  List.dropWhile_append_of_pos blank

theorem trimFront_eq_self {text : List Char} (starts : ∀ c ∈ text.head?, isBlank c = false) :
    trimFront text = text := by
  cases text with
  | nil => rfl
  | cons c rest =>
      have visible : isBlank c = false := starts c rfl
      simp [trimFront, visible]

theorem exists_blank_append_trimFront (text : List Char) :
    ∃ blanks, Blank blanks ∧ text = blanks ++ trimFront text := by
  refine ⟨text.takeWhile isBlank, fun c member => List.mem_takeWhile_imp member, ?_⟩
  exact List.takeWhile_append_dropWhile.symm

theorem head?_trimFront (text : List Char) : ∀ c ∈ (trimFront text).head?, isBlank c = false := by
  intro c head
  have starts := List.head?_dropWhile_not isBlank text
  rw [Option.mem_def, trimFront] at head
  rwa [head] at starts

theorem trimFront_trimFront (text : List Char) : trimFront (trimFront text) = trimFront text :=
  trimFront_eq_self (head?_trimFront text)

theorem trimFront_trim (text : List Char) : trimFront (trim text) = trim text := by
  have kept : trim text <+: trimFront text := List.rdropWhile_prefix isBlank _
  apply trimFront_eq_self
  intro c head
  rcases kept with ⟨blanks, whole⟩
  apply head?_trimFront text
  rw [← whole]
  exact List.mem_head?_append_of_mem_head? head

theorem trim_trim (text : List Char) : trim (trim text) = trim text := by
  have reversed : (trim text).reverse = trimFront (trimFront text).reverse := List.reverse_reverse _
  rw [trim, trimFront_trim, reversed, trimFront_trimFront, trim]

theorem exists_trim_append_blank (text : List Char) :
    ∃ blanks, Blank blanks ∧ trimFront text = trim text ++ blanks := by
  refine ⟨(trimFront text).rtakeWhile isBlank, ?_, ?_⟩
  · intro c member
    exact List.mem_rtakeWhile_imp member
  · exact List.rdropWhile_append_rtakeWhile.symm

/-- Trimming takes the blanks from around what starts and ends with something visible. -/
theorem trim_surrounded {before text behind : List Char} (blank : Blank before)
    (blankBehind : Blank behind) (starts : ∀ c ∈ text.head?, isBlank c = false)
    (ends : ∀ c ∈ text.getLast?, isBlank c = false) : trim (before ++ (text ++ behind)) = text := by
  cases text with
  | nil =>
      have nothing : trimFront (before ++ behind) = [] := by
        rw [trimFront_append blank]
        exact List.dropWhile_eq_nil_iff.mpr blankBehind
      rw [List.nil_append, trim, nothing]
      rfl
  | cons c rest =>
      have visible : isBlank c = false := starts c rfl
      have startsWhole : ∀ d ∈ (c :: rest ++ behind).head?, isBlank d = false := by
        rintro _ ⟨⟩
        exact visible
      have blankReversed : Blank behind.reverse := by
        intro d member
        exact blankBehind d (List.mem_reverse.mp member)
      have startsReversed : ∀ d ∈ (c :: rest).reverse.head?, isBlank d = false := by
        rwa [List.head?_reverse]
      rw [trim, trimFront_append blank, trimFront_eq_self startsWhole, List.reverse_append,
        trimFront_append blankReversed, trimFront_eq_self startsReversed, List.reverse_reverse]

/-! ## Digits -/

theorem isDecimalDigit_of_isDigit {c : Char} (digit : c.isDigit = true) :
    isDecimalDigit c = true := by
  simp only [Char.isDigit, Bool.and_eq_true, decide_eq_true_eq] at digit
  have lower : '0'.toNat ≤ c.toNat := digit.1
  have upper : c.toNat ≤ '9'.toNat := digit.2
  simp only [isDecimalDigit, digitZeros, List.any_cons, Bool.or_eq_true, Bool.and_eq_true,
    decide_eq_true_eq]
  left
  have nine : '9'.toNat = 57 := by decide
  have zero : '0'.toNat = 48 := by decide
  omega

/-- The natural number that digits denote in the decimal system. -/
def decimal (digits : List Char) : Nat :=
  Nat.ofDigits 10 (digits.reverse.map digitValue)

theorem appendDigits_zero (digits : List Char) : appendDigits 0 digits = decimal digits := by
  induction digits using List.reverseRecOn with
  | nil => simp [appendDigits, decimal]
  | append_singleton digits digit ih =>
      simp only [appendDigits, decimal] at ih
      simp [appendDigits, decimal, Nat.ofDigits_cons, ih, Nat.add_comm]

theorem natural?_of_readable {digits : List Char} (present : digits ≠ [])
    (readable : ∀ c ∈ digits, c.isDigit = true) :
    natural? digits = some (appendDigits 0 digits) := by
  have nonempty : digits.isEmpty = false := by simpa using present
  have all : digits.all Char.isDigit = true := by simpa using readable
  simp [natural?, nonempty, all]

theorem natural?_of_not_readable {digits : List Char}
    (unreadable : ¬∀ c ∈ digits, c.isDigit = true) : natural? digits = none := by
  have other : digits.all Char.isDigit = false := by
    rw [← Bool.not_eq_true, List.all_eq_true]
    exact unreadable
  simp [natural?, other]

theorem digitValue_le {c : Char} (digit : c.isDigit = true) : digitValue c ≤ 9 := by
  simp only [Char.isDigit, Bool.and_eq_true, decide_eq_true_eq] at digit
  have upper : c.toNat ≤ '9'.toNat := digit.2
  have nine : '9'.toNat = 57 := by decide
  have zero : '0'.toNat = 48 := by decide
  rw [digitValue]
  omega

/-- Digits that are read behind a number move it to the left and stay below its last place. -/
theorem appendDigits_lt {digits : List Char} (ascii : ∀ c ∈ digits, c.isDigit = true)
    (value : Nat) : appendDigits value digits < (value + 1) * 10 ^ digits.length := by
  induction digits generalizing value with
  | nil => simp [appendDigits]
  | cons c digits ih =>
      have small := digitValue_le (ascii c List.mem_cons_self)
      have others := ih (fun d member => ascii d (List.mem_cons_of_mem c member))
        (10 * value + digitValue c)
      have next : appendDigits value (c :: digits) =
          appendDigits (10 * value + digitValue c) digits := rfl
      rw [next]
      calc appendDigits (10 * value + digitValue c) digits
        _ < (10 * value + digitValue c + 1) * 10 ^ digits.length := others
        _ ≤ ((value + 1) * 10) * 10 ^ digits.length := Nat.mul_le_mul_right _ (by omega)
        _ = (value + 1) * 10 ^ (c :: digits).length := by
          rw [List.length_cons, Nat.pow_succ', Nat.mul_assoc]

end EntryTree.Text
