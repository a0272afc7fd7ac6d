import EntryTree.Proofs.Text.Characters
import EntryTree.Time.Timestamp

/-!
# Fields of dates and times

Dates and times are written field by field, and every field is read off the front of what is left.
Here is what the scanners of fields make of a field and of what is written behind it. A number that
is padded to as many digits as its scanner takes needs no end; blanks end at anything visible, and a
fraction at anything that is neither a point nor a digit.
-/

namespace EntryTree

open Text

/-! ## Digits -/

namespace Text

variable {digits others : List Char}

theorem decimal_append (digits others : List Char) :
    decimal (digits ++ others) = decimal digits * 10 ^ others.length + decimal others := by
  simp only [decimal, List.reverse_append, List.map_append, Nat.ofDigits_append, List.length_map,
    List.length_reverse]
  rw [Nat.add_comm, Nat.mul_comm]

theorem decimal_lt (ascii : ∀ c ∈ digits, c.isDigit = true) :
    decimal digits < 10 ^ digits.length := by
  have small := appendDigits_lt ascii 0
  rwa [appendDigits_zero, Nat.zero_add, Nat.one_mul] at small

theorem isBlank_of_isDigit {c : Char} (digit : c.isDigit = true) : isBlank c = false :=
  isBlank_of_isDecimalDigit (isDecimalDigit_of_isDigit digit)

theorem isBlank_of_isAlpha {c : Char} (letter : c.isAlpha = true) : isBlank c = false := by
  rw [← Bool.not_eq_true]
  intro blank
  have apart : ∀ code ∈ blankCodes, ¬(65 ≤ code ∧ code ≤ 90) ∧ ¬(97 ≤ code ∧ code ≤ 122) := by
    decide
  have outside := apart _ (mem_blankCodes blank)
  rcases Bool.or_eq_true_iff.mp letter with capital | small
  · exact outside.1 (of_decide_eq_true capital)
  · rcases Bool.and_eq_true_iff.mp small with ⟨least, most⟩
    exact outside.2 ⟨of_decide_eq_true least, of_decide_eq_true most⟩

/-- Digits behind a point in units of a power of ten. Those that the units cannot hold are
dropped. -/
theorem decimal_take (ascii : ∀ c ∈ digits, c.isDigit = true) (places : Nat) :
    decimal (digits.take places) * 10 ^ (places - (digits.take places).length) =
      decimal digits * 10 ^ places / 10 ^ digits.length := by
  rcases Nat.le_total digits.length places with short | long
  · have power : 10 ^ places = 10 ^ (places - digits.length) * 10 ^ digits.length := by
      rw [← Nat.pow_add, Nat.sub_add_cancel short]
    rw [List.take_of_length_le short, power, ← Nat.mul_assoc,
      Nat.mul_div_cancel _ (Nat.pow_pos (by omega))]
  · have counted : (digits.take places).length = places := by simp [long]
    have dropped : decimal (digits.drop places) < 10 ^ (digits.drop places).length :=
      decimal_lt fun c member => ascii c (List.mem_of_mem_drop member)
    have power : 10 ^ digits.length = 10 ^ (digits.drop places).length * 10 ^ places := by
      rw [← Nat.pow_add, List.length_drop, Nat.sub_add_cancel long]
    have whole : decimal digits =
        decimal (digits.take places) * 10 ^ (digits.drop places).length +
          decimal (digits.drop places) := by
      rw [← decimal_append, List.take_append_drop]
    rw [counted, Nat.sub_self, Nat.pow_zero, Nat.mul_one, power,
      Nat.mul_div_mul_right _ _ (Nat.pow_pos (by omega)), whole, Nat.mul_comm,
      Nat.mul_add_div (Nat.pow_pos (by omega)), Nat.div_eq_of_lt dropped, Nat.add_zero]

end Text

/-! ## Scanners -/

namespace Text.Scanner

variable {α β : Type} {chars digits rest : List Char} {c : Char}

theorem bind_apply (scanner : Scanner α) (next : α → Scanner β) (chars : List Char) :
    (scanner >>= next) chars = (scanner chars).bind fun answer => next answer.1 answer.2 :=
  rfl

theorem pure_apply (value : α) (chars : List Char) :
    (pure value : Scanner α) chars = some (value, chars) :=
  rfl

theorem bind_of_read {scanner : Scanner α} {value : α} (next : α → Scanner β)
    (read : scanner chars = some (value, rest)) : (scanner >>= next) chars = next value rest := by
  rw [bind_apply, read, Option.bind_some]

theorem bind_of_none {scanner : Scanner α} (next : α → Scanner β) (failed : scanner chars = none) :
    (scanner >>= next) chars = none := by
  rw [bind_apply, failed, Option.bind_none]

theorem charWhere_cons {accepted : Char → Bool} (accepts : accepted c = true) :
    charWhere accepted (c :: rest) = some (c, rest) :=
  if_pos accepts

theorem char_cons (c : Char) (rest : List Char) : char c (c :: rest) = some ((), rest) := by
  simp [char, bind_apply, pure_apply, charWhere]

theorem char_of_ne (other : ∀ d ∈ chars.head?, d ≠ c) : char c chars = none := by
  cases chars with
  | nil => rfl
  | cons d rest =>
      have different : d ≠ c := other d rfl
      simp [char, bind_apply, charWhere, different]

theorem blanks_of_visible (visible : ∀ c ∈ chars.head?, isBlank c = false) :
    blanks chars = some ((), chars) := by
  have kept : trimFront chars = chars := trimFront_eq_self visible
  rw [trimFront] at kept
  rw [blanks, skipWhile, kept]

theorem blanks_append {front : List Char} (blank : Blank front) (rest : List Char) :
    blanks (front ++ rest) = blanks rest := by
  rw [blanks, skipWhile, skipWhile, List.dropWhile_append_of_pos blank]

theorem number_of_digits {least : Nat} (ascii : ∀ c ∈ digits, c.isDigit = true)
    (enough : least ≤ digits.length) (rest : List Char) :
    number least digits.length (digits ++ rest) = some (decimal digits, rest) := by
  have taken : digits.takeWhile Char.isDigit = digits := List.takeWhile_eq_self_iff.mpr ascii
  simp [number, bind_apply, pure_apply, digitsUpTo, taken, enough, appendDigits_zero]

theorem number_of_not_digit {least most : Nat} (present : 0 < least)
    (other : ∀ c ∈ chars.head?, c.isDigit = false) : number least most chars = none := by
  have none_taken : (chars.take most).takeWhile Char.isDigit = [] := by
    cases chars with
    | nil => simp
    | cons c rest =>
        have stops : c.isDigit = false := other c rfl
        cases most <;> simp [stops]
  have short : ¬least ≤ 0 := Nat.not_le.mpr present
  simp [number, bind_apply, digitsUpTo, none_taken, short]
  rfl

/-- A fraction of a second: nothing, or a point and digits. -/
def pointed (digits : List Char) : List Char :=
  if digits = [] then [] else '.' :: digits

/-- What does not go on with a fraction. -/
def Stops (rest : List Char) : Prop :=
  ∀ c ∈ rest.head?, c.isDigit = false ∧ c ≠ '.'

/-- A fraction is read in nanoseconds, and the digits behind the ninth are dropped. -/
theorem fraction_pointed (ascii : ∀ c ∈ digits, c.isDigit = true) (stops : Stops rest) :
    fraction (pointed digits ++ rest) =
      some (decimal digits * 10 ^ 9 / 10 ^ digits.length, rest) := by
  have behind : rest.takeWhile Char.isDigit = [] ∧ rest.dropWhile Char.isDigit = rest :=
    scan_of_head fun c head => (stops c head).1
  cases digits with
  | nil =>
      simp only [pointed, if_pos, List.nil_append]
      cases rest with
      | nil => rfl
      | cons c rest =>
          have other : c ≠ '.' := (stops c rfl).2
          simp [fraction, other, decimal]
  | cons first digits =>
      have counted := decimal_take ascii 9
      simp only [pointed, reduceCtorEq, if_false, List.cons_append, fraction]
      rw [← List.cons_append, List.takeWhile_append_of_pos ascii,
        List.dropWhile_append_of_pos ascii, behind.1, behind.2, List.append_nil, appendDigits_zero]
      simpa using counted

end Text.Scanner

/-! ## Padded numbers -/

namespace Instant

open Text.Scanner

variable {width value : Nat}

theorem toList_padded (width value : Nat) :
    (padded width value).toList =
      List.replicate (width - (Nat.toDigits 10 value).length) '0' ++ Nat.toDigits 10 value := by
  have same : (toString value).length = (Nat.toDigits 10 value).length := by
    rw [← String.length_toList, Nat.toString_eq_repr, Nat.toList_repr]
  rw [padded, String.toList_append, String.toList_ofList, same, Nat.toString_eq_repr,
    Nat.toList_repr]

theorem isDigit_of_mem_padded {c : Char} (member : c ∈ (padded width value).toList) :
    c.isDigit = true := by
  rw [toList_padded, List.mem_append] at member
  rcases member with zero | digit
  · rw [List.eq_of_mem_replicate zero]
    rfl
  · exact Nat.isDigit_of_mem_toDigits (by omega) (by omega) digit

theorem length_padded (positive : 0 < width) (small : value < 10 ^ width) :
    (padded width value).toList.length = width := by
  have fits : (Nat.toDigits 10 value).length ≤ width :=
    (Nat.length_toDigits_le_iff (by omega) positive).mpr small
  rw [toList_padded, List.length_append, List.length_replicate]
  omega

theorem decimal_padded (width value : Nat) : decimal (padded width value).toList = value := by
  have zeros : ∀ count, decimal (List.replicate count '0') = 0 := by
    intro count
    induction count with
    | zero => rfl
    | succ count ih =>
        rw [List.replicate_succ', decimal_append, ih]
        rfl
  have digits : appendDigits 0 (Nat.toDigits 10 value) = value :=
    Nat.ofDigitChars_toDigits (by omega) (by omega)
  rw [toList_padded, decimal_append, zeros, Nat.zero_mul, Nat.zero_add, ← appendDigits_zero, digits]

theorem number_padded {least : Nat} (positive : 0 < width) (enough : least ≤ width)
    (small : value < 10 ^ width) (rest : List Char) :
    number least width ((padded width value).toList ++ rest) = some (value, rest) := by
  have length := length_padded positive small
  have ascii : ∀ c ∈ (padded width value).toList, c.isDigit = true := fun c member =>
    isDigit_of_mem_padded member
  have read := number_of_digits ascii (by omega : least ≤ _) rest
  rwa [length, decimal_padded] at read

theorem number_padded_two (small : value < 100) (rest : List Char) :
    number 2 2 ((padded 2 value).toList ++ rest) = some (value, rest) :=
  number_padded (by omega) (Nat.le_refl 2) small rest

/-- A padded number starts with a digit. -/
theorem head_padded (positive : 0 < width) (small : value < 10 ^ width) (rest : List Char) :
    ∃ c others, (padded width value).toList ++ rest = c :: others ∧ c.isDigit = true := by
  have length := length_padded positive small
  cases written : (padded width value).toList with
  | nil =>
      rw [written, List.length_nil] at length
      omega
  | cons c others =>
      have member : c ∈ (padded width value).toList := by
        rw [written]
        exact List.mem_cons_self
      exact ⟨c, others ++ rest, rfl, isDigit_of_mem_padded member⟩

theorem blanks_padded (positive : 0 < width) (small : value < 10 ^ width) (rest : List Char) :
    blanks ((padded width value).toList ++ rest) =
      some ((), (padded width value).toList ++ rest) := by
  rcases head_padded positive small rest with ⟨c, others, written, digit⟩
  apply blanks_of_visible
  rw [written]
  rintro _ ⟨⟩
  exact isBlank_of_isDigit digit

/-- A number of two digits is read as a short field. -/
theorem shortField_padded (small : value < 100) (rest : List Char) :
    shortField ((padded 2 value).toList ++ rest) = some (value, rest) := by
  rw [shortField, bind_of_read _ (blanks_padded (by omega) small rest),
    number_padded (by omega) (by omega) small]

theorem yearField_padded (small : value < 10000) (rest : List Char) :
    yearField ((padded 4 value).toList ++ rest) = some ((value : Int), rest) := by
  have read : number 1 4 ((padded 4 value).toList ++ rest) = some (value, rest) :=
    number_padded (by omega) (by omega) small rest
  rw [yearField, bind_of_read _ (blanks_padded (by omega) small rest)]
  rcases head_padded (by omega : 0 < 4) small rest with ⟨c, others, written, digit⟩
  rw [written] at read ⊢
  split
  · next same =>
      rw [(List.cons.inj same).1] at digit
      exact absurd digit (by decide)
  · next same =>
      rw [(List.cons.inj same).1] at digit
      exact absurd digit (by decide)
  · rw [map_eq_pure_bind, bind_of_read _ read]
    rfl

end Instant
end EntryTree
