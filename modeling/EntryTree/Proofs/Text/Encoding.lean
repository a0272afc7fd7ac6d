import Mathlib.Data.List.Basic

/-!
# Texts as bytes

Patterns are matched against the bytes of a text. No character's bytes go on into those of another,
so wherever bytes come apart at the bytes of a text, the characters come apart there too.
-/

namespace EntryTree.Text

variable {text other : List Char} {front behind : List UInt8}

/-- The bytes that encode the characters of a text. -/
def bytes (text : List Char) : List UInt8 :=
  text.flatMap String.utf8EncodeChar

theorem toList_eq_data (array : ByteArray) : array.toList = array.data.toList := by
  have remaining : ∀ start read, ByteArray.toList.loop array start read =
      read.reverse ++ array.data.toList.drop start := by
    intro start read
    fun_induction ByteArray.toList.loop array start read with
    | case1 start read inside ih =>
        have within : start < array.data.toList.length := by simpa using inside
        rw [ih, List.drop_eq_getElem_cons within]
        simp [ByteArray.get!, inside]
    | case2 start read outside =>
        have ended : array.data.toList.length ≤ start := by simpa using outside
        rw [List.drop_eq_nil_of_le ended, List.append_nil]
  rw [ByteArray.toList, remaining]
  rfl

theorem toList_toUTF8 (text : String) : text.toUTF8.toList = bytes text.toList := by
  rw [String.toUTF8, ← String.utf8Encode_toList, toList_eq_data, List.utf8Encode,
    List.toList_data_toByteArray, bytes]

theorem toByteArray_bytes (text : List Char) : (bytes text).toByteArray = text.utf8Encode :=
  rfl

theorem bytes_append (text other : List Char) : bytes (text ++ other) = bytes text ++ bytes other :=
  List.flatMap_append

theorem bytes_inj : bytes text = bytes other ↔ text = other := by
  refine ⟨?_, congrArg bytes⟩
  intro same
  have encoded := congrArg List.toByteArray same
  rw [toByteArray_bytes, toByteArray_bytes, ← String.toByteArray_ofList,
    ← String.toByteArray_ofList, String.toByteArray_inj] at encoded
  rw [← String.toList_ofList (l := text), encoded, String.toList_ofList]

/-- Where bytes begin with those of a text, the characters do. -/
theorem exists_append_of_bytes_front (split : bytes text = bytes other ++ behind) :
    ∃ rest, text = other ++ rest ∧ behind = bytes rest := by
  have encoded := congrArg List.toByteArray split
  rw [List.toByteArray_append, toByteArray_bytes, toByteArray_bytes] at encoded
  rcases List.isPrefix_of_utf8Encode_append_eq_utf8Encode _ encoded.symm with ⟨rest, rfl⟩
  rw [bytes_append, List.append_cancel_left_eq] at split
  exact ⟨rest, rfl, split.symm⟩

/-- A text begins with a byte that begins a character. -/
theorem isFirstByte_of_head {byte : UInt8} (head : byte ∈ (bytes text).head?) :
    byte.IsUTF8FirstByte := by
  cases text with
  | nil => contradiction
  | cons c text =>
      have present : 0 < (String.utf8EncodeChar c).length :=
        List.length_pos_iff.mpr (String.utf8EncodeChar_ne_nil)
      rw [bytes, List.flatMap_cons, List.head?_append_of_ne_nil _ String.utf8EncodeChar_ne_nil,
        List.head?_eq_getElem?, List.getElem?_eq_getElem present] at head
      rw [← Option.some.inj head]
      exact UInt8.isUTF8FirstByte_getElem_utf8EncodeChar.mpr rfl

/-- No byte inside a character begins another one. -/
theorem eq_nil_of_isFirstByte {c : Char} {byte : UInt8} (first : byte.IsUTF8FirstByte)
    (split : String.utf8EncodeChar c = front ++ byte :: behind) : front = [] := by
  have inside : front.length < (String.utf8EncodeChar c).length := by simp [split]
  have here : (String.utf8EncodeChar c)[front.length] = byte := by simp [split]
  rw [← here, UInt8.isUTF8FirstByte_getElem_utf8EncodeChar] at first
  exact List.length_eq_zero_iff.mp first

/-- Where bytes end with those of a text, the characters do. -/
theorem exists_append_of_bytes_end (split : bytes text = front ++ bytes other) :
    ∃ rest, text = rest ++ other ∧ front = bytes rest := by
  induction text generalizing front with
  | nil =>
      rcases List.append_eq_nil_iff.mp split.symm with ⟨rfl, empty⟩
      exact ⟨[], (bytes_inj.mp empty).symm, rfl⟩
  | cons c text ih =>
      have further : ∀ more, front = String.utf8EncodeChar c ++ more →
          bytes text = more ++ bytes other →
          ∃ rest, c :: text = rest ++ other ∧ front = bytes rest := by
        rintro more rfl split
        rcases ih split with ⟨rest, rfl, rfl⟩
        exact ⟨c :: rest, rfl, rfl⟩
      have parts : String.utf8EncodeChar c ++ bytes text = front ++ bytes other := split
      rcases List.append_eq_append_iff.mp parts with
        ⟨more, whole, others⟩ | ⟨inside, whole, others⟩
      · exact further more whole others
      · cases inside with
        | nil =>
            rw [List.append_nil] at whole
            exact further [] (by rw [whole, List.append_nil]) others.symm
        | cons byte inside =>
            -- The other text begins inside the first character, hence together with it.
            have first : byte.IsUTF8FirstByte := isFirstByte_of_head (by rw [others]; rfl)
            rcases eq_nil_of_isFirstByte first whole with rfl
            exact ⟨[], bytes_inj.mp split, rfl⟩

end EntryTree.Text
