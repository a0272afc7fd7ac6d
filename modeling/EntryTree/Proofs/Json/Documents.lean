import EntryTree.Json.Reader
import EntryTree.Json.Writer
import EntryTree.Proofs.Text.Characters

/-!
# Reading written documents

A document is split into words before its form is known, so what is written is followed in two
steps. The characters of a value are the words that were meant, as long as no number runs on behind
them, and this composes at punctuation. The words of a value then amount to its form inside whatever
is still open. Objects come from their fields by induction on the fields, and of what they hold
nothing is needed but that it is read as it was written.
-/

namespace EntryTree.Json

open Text

variable {text chars rest first second : List Char} {words more : List Lexeme}

/-! ## Texts -/

theorem hexDigit?_hexDigit : ∀ value < 16, hexDigit? (hexDigit value) = some value := by
  decide

/-- A control is escaped by the number that it has. -/
theorem codeUnit?_hexDigit {code : Nat} (control : code < 32) :
    codeUnit? '0' '0' (hexDigit (code / 16)) (hexDigit (code % 16)) = some code := by
  have zero : hexDigit? '0' = some 0 := rfl
  have high := hexDigit?_hexDigit (code / 16) (by omega)
  have low := hexDigit?_hexDigit (code % 16) (by omega)
  simp only [codeUnit?, zero, high, low, Option.bind_eq_bind, Option.bind_some]
  congr 1
  omega

/-- The ways to write a character: by a letter, by its number and as it is. -/
inductive Written (c : Char) : List Char → Prop
  | letter {escape : Char} (meant : shortEscape? escape = some c) (notUnit : escape ≠ 'u') :
      Written c ['\\', escape]
  | number (control : c.toNat < 32) :
      Written c ['\\', 'u', '0', '0', hexDigit (c.toNat / 16), hexDigit (c.toNat % 16)]
  | plain (visible : 32 ≤ c.toNat) (notQuote : c ≠ '"') (notEscape : c ≠ '\\') : Written c [c]

theorem written_writeChar (c : Char) : Written c (writeChar c) := by
  unfold writeChar
  split_ifs with special newline carriage tab backspace formfeed control
  · rw [Bool.or_eq_true, decide_eq_true_eq, decide_eq_true_eq] at special
    rcases special with rfl | rfl
    · exact .letter rfl (by decide)
    · exact .letter rfl (by decide)
  · exact newline ▸ .letter rfl (by decide)
  · exact carriage ▸ .letter rfl (by decide)
  · exact tab ▸ .letter rfl (by decide)
  · exact backspace ▸ .letter rfl (by decide)
  · exact formfeed ▸ .letter rfl (by decide)
  · exact .number control
  · have plain : c ≠ '"' ∧ c ≠ '\\' := by simpa using special
    exact .plain (Nat.not_lt.mp control) plain.1 plain.2

/-- However it is written, a character is read as itself. -/
theorem Written.textUnits?_append {c : Char} {spelled : List Char} (written : Written c spelled)
    (chars : List Char) :
    textUnits? (spelled ++ chars) =
      (textUnits? chars).map fun read => (c.toNat :: read.1, read.2) := by
  cases written with
  | letter meant notUnit =>
      rw [List.cons_append, List.singleton_append,
        textUnits?.eq_4 _ _ fun _ _ _ _ _ same => absurd same notUnit, meant]
      cases textUnits? chars <;> rfl
  | number control =>
      simp only [List.cons_append, List.nil_append, textUnits?.eq_3, codeUnit?_hexDigit control]
      cases textUnits? chars <;> rfl
  | plain visible notQuote notEscape =>
      have accepted : ¬(decide (c.toNat < 0x20) || decide (c = '\\')) = true := by
        simp [notEscape, visible]
      rw [List.singleton_append,
        textUnits?.eq_5 _ _ notQuote (fun _ _ _ _ _ same => absurd same notEscape)
          (fun _ _ same => absurd same notEscape), if_neg accepted]
      cases textUnits? chars <;> rfl

theorem textUnits?_flatMap (text rest : List Char) :
    textUnits? (text.flatMap writeChar ++ '"' :: rest) = some (text.map Char.toNat, rest) := by
  induction text with
  | nil => rfl
  | cons c text ih =>
      rw [List.flatMap_cons, List.append_assoc, (written_writeChar c).textUnits?_append, ih]
      rfl

/-- No character is half of a surrogate pair. -/
theorem characters?_map_toNat (text : List Char) :
    characters? (text.map Char.toNat) = some text := by
  induction text with
  | nil => rfl
  | cons c text ih =>
      have whole : ¬(0xD800 ≤ c.toNat ∧ c.toNat < 0xE000) := by
        rcases c.valid with low | ⟨high, -⟩
        · exact fun half => absurd low (Nat.not_lt.mpr half.1)
        · exact fun half => absurd high (Nat.not_lt.mpr (Nat.le_of_lt_succ half.2))
      have notHigh : ¬(decide (0xD800 ≤ c.toNat) && decide (c.toNat < 0xDC00)) = true := by
        rw [Bool.and_eq_true, decide_eq_true_eq, decide_eq_true_eq]
        omega
      have notLow : ¬(decide (0xDC00 ≤ c.toNat) && decide (c.toNat < 0xE000)) = true := by
        rw [Bool.and_eq_true, decide_eq_true_eq, decide_eq_true_eq]
        omega
      rw [List.map_cons, characters?.eq_def]
      simp only [if_neg notHigh, if_neg notLow, ih, Char.ofNat_toNat, Option.map_some]

/-! ## Natural numbers -/

/-- A number has no zeros in front. -/
theorem head?_toDigits {value : Nat} (positive : 0 < value) :
    (Nat.toDigits 10 value).head? ≠ some '0' := by
  induction value using Nat.strongRecOn with
  | ind value ih =>
      rcases Nat.lt_or_ge value 10 with small | large
      · have nonzero : ∀ digit < 10, 0 < digit → digit.digitChar ≠ '0' := by decide
        rw [Nat.toDigits_of_lt_base small, List.head?_cons, ne_eq, Option.some.injEq]
        exact nonzero value small positive
      · rw [Nat.toDigits_of_base_le (by omega) large,
          List.head?_append_of_ne_nil _ Nat.toDigits_ne_nil]
        exact ih (value / 10) (by omega) (by omega)

theorem numeral?_toDigits {value : Nat} (small : value ≤ maxWord) :
    numeral? (Nat.toDigits 10 value) = some (some (.integer value)) := by
  have ascii : ∀ c ∈ Nat.toDigits 10 value, c.isDigit = true := fun c member =>
    Nat.isDigit_of_mem_toDigits (by omega) (by omega) member
  have digits : appendDigits 0 (Nat.toDigits 10 value) = value :=
    Nat.ofDigitChars_toDigits (by omega) (by omega)
  have run : digitRun (Nat.toDigits 10 value) = (Nat.toDigits 10 value, []) := by
    rw [digitRun, List.takeWhile_eq_self_iff.mpr ascii, List.dropWhile_eq_nil_iff.mpr ascii]
  have unpadded : ¬((Nat.toDigits 10 value).isEmpty ||
      (decide ((Nat.toDigits 10 value).length ≠ 1) &&
        decide ((Nat.toDigits 10 value).head? = some '0'))) = true := by
    have present : (Nat.toDigits 10 value).isEmpty = false :=
      List.isEmpty_eq_false_iff.mpr Nat.toDigits_ne_nil
    rw [present, Bool.false_or, Bool.and_eq_true, decide_eq_true_eq, decide_eq_true_eq]
    rintro ⟨long, zero⟩
    rcases Nat.eq_zero_or_pos value with rfl | positive
    · exact long rfl
    · exact head?_toDigits positive zero
  have unsigned (chars : List Char) (signed : Nat.toDigits 10 value = '-' :: chars) : False := by
    have digit := ascii '-' (signed ▸ List.mem_cons_self)
    exact absurd digit (by decide)
  have fits : wholeNumber? false (Nat.toDigits 10 value) = some (.integer value) := by
    simp [wholeNumber?, digits, small]
  rw [numeral?]
  · simp only [run, if_neg unpadded, fits]
  · exact unsigned

/-! ## Words -/

/-- The characters are the words, if what is written behind them does not go on with a number. -/
def Spells (chars : List Char) (words : List Lexeme) : Prop :=
  ∀ rest : List Char, (∀ c ∈ rest.head?, isNumberChar c = false) →
    lexemes? (chars ++ rest) = (lexemes? rest).map (words ++ ·)

theorem spells_writeText (text : String) : Spells (writeText text).toList [.text (some text)] := by
  intro rest ends
  have written : (writeText text).toList ++ rest =
      '"' :: (text.toList.flatMap writeChar ++ '"' :: rest) := by
    rw [writeText, String.toList_ofList]
    simp
  rw [written, lexemes?.eq_11]
  split
  · next refused =>
      rw [textUnits?_flatMap] at refused
      cases refused
  · next units after read =>
      rw [textUnits?_flatMap] at read
      cases read
      rw [characters?_map_toNat, Option.map_some, String.ofList_toList]
      rfl

/-- A digit begins a number, and what follows it as long as it can is the number. -/
theorem lexemes?_digit {c : Char} {chars rest : List Char} (digit : c.isDigit = true)
    (number : ∀ c ∈ chars, isNumberChar c = true)
    (ends : ∀ c ∈ rest.head?, isNumberChar c = false) :
    lexemes? (c :: (chars ++ rest)) =
      (numeral? (c :: chars)).bind fun value => (lexemes? rest).map (.number value :: ·) := by
  have other {d : Char} (notDigit : d.isDigit = false) : c ≠ d := by
    rintro rfl
    rw [digit] at notDigit
    contradiction
  have space : isSpace c = false := by
    simp [isSpace, other (d := ' ') rfl, other (d := '\n') rfl, other (d := '\t') rfl,
      other (d := '\r') rfl]
  have begins : isNumberChar c = true := by
    simp [isNumberChar, digit]
  rcases scan_of_head ends with ⟨taken, dropped⟩
  rw [lexemes?.eq_12 c _ (other rfl) (other rfl) (other rfl) (other rfl) (other rfl) (other rfl)
    (fun _ same => absurd same (other rfl)) (fun _ same => absurd same (other rfl))
    (fun _ same => absurd same (other rfl)) (other rfl), space, begins,
    List.takeWhile_append_of_pos number, taken, List.append_nil,
    List.dropWhile_append_of_pos number, dropped]
  cases numeral? (c :: chars) <;> rfl

theorem spells_nat {value : Nat} (small : value ≤ maxWord) :
    Spells (write (.nat value)).toList [.number (some (.integer value))] := by
  intro rest ends
  have written : (write (.nat value)).toList = Nat.toDigits 10 value := by
    change (toString value).toList = _
    rw [Nat.toString_eq_repr, Nat.toList_repr]
  have read := numeral?_toDigits small
  have ascii : ∀ c ∈ Nat.toDigits 10 value, c.isDigit = true := fun c member =>
    Nat.isDigit_of_mem_toDigits (by omega) (by omega) member
  rw [written]
  cases digits : Nat.toDigits 10 value with
  | nil => exact absurd digits Nat.toDigits_ne_nil
  | cons c others =>
      rw [digits] at read ascii
      have number : ∀ c ∈ others, isNumberChar c = true := by
        intro c member
        simp [isNumberChar, ascii c (List.mem_cons_of_mem _ member)]
      rw [List.cons_append, lexemes?_digit (ascii c List.mem_cons_self) number ends, read]
      rfl

theorem spells_nil : Spells [] [] := by
  intro rest _
  simp

/-- The character is a word wherever it stands between words. -/
structure Punctuates (c : Char) (word : Lexeme) : Prop where
  ends : isNumberChar c = false
  spells : ∀ rest, lexemes? (c :: rest) = (lexemes? rest).map (word :: ·)

theorem punctuates_colon : Punctuates ':' .colon :=
  ⟨rfl, lexemes?.eq_7⟩

theorem punctuates_comma : Punctuates ',' .comma :=
  ⟨rfl, lexemes?.eq_6⟩

theorem punctuates_openObject : Punctuates '\x7b' .openObject :=
  ⟨rfl, lexemes?.eq_2⟩

theorem punctuates_closeObject : Punctuates '\x7d' .closeObject :=
  ⟨rfl, lexemes?.eq_3⟩

/-- Words on both sides of a punctuation. -/
theorem Spells.join {c : Char} {word : Lexeme} (before : Spells first words)
    (punctuates : Punctuates c word) (behind : Spells second more) :
    Spells (first ++ c :: second) (words ++ word :: more) := by
  intro rest ends
  have stops : ∀ d ∈ (c :: (second ++ rest)).head?, isNumberChar d = false := by
    rintro _ ⟨⟩
    exact punctuates.ends
  rw [List.append_assoc, List.cons_append, before _ stops, punctuates.spells, behind rest ends]
  simp [Function.comp_def]

theorem Spells.lexemes? (spells : Spells chars words) : lexemes? chars = some words := by
  have read := spells [] nofun
  rwa [List.append_nil, lexemes?.eq_1, Option.map_some, List.append_nil] at read

/-! ## Values -/

/-- A value is written in words that amount to the form, and the form has the value. -/
structure ReadsAs (value : Json) (form : Form) : Prop where
  exists_words : ∃ words, Spells (write value).toList words ∧
    ∀ enclosures, words.foldlM Progress.step? (.expectValue enclosures) =
      some (.finished form enclosures)
  value : form.value? = some value

theorem readsAs_text (text : String) : ReadsAs (.text text) (.text (some text)) :=
  ⟨⟨_, spells_writeText text, fun _ => rfl⟩, rfl⟩

theorem readsAs_nat {value : Nat} (small : value ≤ maxWord) :
    ReadsAs (.nat value) (.number (some (.integer value))) :=
  ⟨⟨_, spells_nat small, fun _ => rfl⟩, rfl⟩

/-- A field is written with its name and a value that reads as the form. -/
def FieldReadsAs (field : String × Json) (read : Option String × Form) : Prop :=
  read.1 = some field.1 ∧ ReadsAs field.2 read.2

/-- Where a name has to follow, a field brings its form into the object that is open. -/
theorem FieldReadsAs.exists_words {field : String × Json} {read : Option String × Form}
    (alike : FieldReadsAs field read) :
    ∃ words, Spells ((writeText field.1).toList ++ ':' :: (write field.2).toList)
        (.text (some field.1) :: words) ∧
      ∀ fields enclosures,
        (.text (some field.1) :: words).foldlM Progress.step? (.expectName fields enclosures) =
          some (.finished read.2 (.object fields read.1 :: enclosures)) := by
  rcases alike with ⟨name, ⟨words, spells, amounts⟩, -⟩
  refine ⟨.colon :: words, (spells_writeText field.1).join punctuates_colon spells, ?_⟩
  intro fields enclosures
  rw [name]
  exact amounts (.object fields (some field.1) :: enclosures)

/-- The fields of an object that is open, and its end. -/
theorem exists_words_fields {field : String × Json} {read : Option String × Form}
    {fields : Fields} {reads : List (Option String × Form)} (alike : FieldReadsAs field read)
    (others : List.Forall₂ FieldReadsAs fields reads) :
    ∃ words, Spells ((writeFields (field :: fields)).toList ++ ['\x7d'])
        (.text (some field.1) :: words) ∧
      ∀ earlier enclosures,
        (.text (some field.1) :: words).foldlM Progress.step? (.expectName earlier enclosures) =
          some (.finished (.object (earlier.reverse ++ read :: reads)) enclosures) := by
  induction others generalizing field read with
  | nil =>
      rcases alike.exists_words with ⟨words, spells, amounts⟩
      have written : (writeFields [field]).toList =
          (writeText field.1).toList ++ ':' :: (write field.2).toList := by
        simp [writeFields]
      refine ⟨words ++ [.closeObject], ?_, ?_⟩
      · rw [written]
        exact spells.join punctuates_closeObject spells_nil
      · intro earlier enclosures
        rw [← List.cons_append, List.foldlM_append, amounts earlier enclosures]
        simp [Progress.step?]
  | @cons next nextRead fields reads nextAlike others ih =>
      rcases alike.exists_words with ⟨words, spells, amounts⟩
      rcases ih nextAlike with ⟨more, moreSpells, moreAmounts⟩
      have written : (writeFields (field :: next :: fields)).toList ++ ['\x7d'] =
          ((writeText field.1).toList ++ ':' :: (write field.2).toList) ++
            ',' :: ((writeFields (next :: fields)).toList ++ ['\x7d']) := by
        simp [writeFields]
      refine ⟨words ++ .comma :: .text (some next.1) :: more, ?_, ?_⟩
      · rw [written]
        exact spells.join punctuates_comma moreSpells
      · intro earlier enclosures
        have rest := moreAmounts (read :: earlier) enclosures
        rw [List.reverse_cons, List.append_assoc, List.singleton_append] at rest
        rw [← List.cons_append, List.foldlM_append, amounts earlier enclosures, ← rest]
        rfl

/-- Fields of distinct names keep their order. -/
theorem fieldValues?_of_nodup {earlier fields : Fields} {reads : List (Option String × Form)}
    (alike : List.Forall₂ FieldReadsAs fields reads)
    (distinct : ((earlier ++ fields).map Prod.fst).Nodup) :
    Form.fieldValues? earlier reads = some (earlier ++ fields) := by
  induction alike generalizing earlier with
  | nil => rw [Form.fieldValues?, List.append_nil]
  | @cons field read fields reads first others ih =>
      rcases read with ⟨name, form⟩
      rcases first with ⟨rfl, reads⟩
      -- A field of the same name would be replaced, but there is none.
      have free : earlier.filter (·.1 != field.1) = earlier := by
        rw [List.filter_eq_self]
        intro other member
        rw [List.map_append, List.nodup_append] at distinct
        exact bne_iff_ne.mpr
          (distinct.2.2 _ (List.mem_map_of_mem member) _ List.mem_cons_self)
      rw [List.append_cons] at distinct ⊢
      rw [Form.fieldValues?]
      simp only [Option.bind_eq_bind, Option.bind_some, reads.value, setField, free]
      exact ih distinct

/-- An object reads as an object if its fields read as the fields. -/
theorem readsAs_object {fields : Fields} {reads : List (Option String × Form)}
    (alike : List.Forall₂ FieldReadsAs fields reads) (distinct : (fields.map Prod.fst).Nodup) :
    ReadsAs (.object fields) (.object reads) := by
  have written : (write (.object fields)).toList =
      [] ++ '\x7b' :: ((writeFields fields).toList ++ ['\x7d']) := by
    simp [write]
  refine ⟨?_, ?_⟩
  · rw [written]
    cases alike with
    | nil =>
        exact ⟨_, spells_nil.join punctuates_openObject
          (spells_nil.join punctuates_closeObject spells_nil), fun _ => rfl⟩
    | cons first others =>
        rcases exists_words_fields first others with ⟨words, spells, amounts⟩
        exact ⟨_, spells_nil.join punctuates_openObject spells, amounts []⟩
  · have values : Form.fieldValues? [] reads = some ([] ++ fields) :=
      fieldValues?_of_nodup alike distinct
    rw [Form.value?, values]
    rfl

theorem form?_write {value : Json} {form : Form} (alike : ReadsAs value form) :
    form? (write value) = some form := by
  rcases alike.exists_words with ⟨words, spells, amounts⟩
  simp only [form?, spells.lexemes?, Option.bind_eq_bind, Option.bind_some, amounts]

/-- A document has the value that it was written for. -/
theorem read?_write {value : Json} {form : Form} (alike : ReadsAs value form) :
    read? (write value) = some value := by
  rw [read?, form?_write alike, Option.bind_some, alike.value]

end EntryTree.Json
