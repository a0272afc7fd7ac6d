import EntryTree.Proofs.Command.Words
import EntryTree.Proofs.Text.Encoding

/-!
# Texts as characters for bytes

Programs of the system see a text as the bytes of its encoding, with a character for each byte. A
character of one byte is not found in the encoding of any other, so what looks for such characters
comes to the same on a text and on its bytes. In particular a text can be put in quotes before it
is encoded or afterwards.
-/

namespace EntryTree.Command

theorem toNat_ofNat_byte (byte : UInt8) : (Char.ofNat byte.toNat).toNat = byte.toNat := by
  have one : ∀ code < 256, (Char.ofNat code).toNat = code := by decide +kernel
  exact one _ byte.toNat_lt

theorem bytesOf_ofBytes (data : List UInt8) : bytesOf (ofBytes data) = data := by
  rw [bytesOf, ofBytes, String.toList_ofList, List.map_map]
  refine (List.map_congr_left fun byte _ => ?_).trans (List.map_id data)
  show (Char.ofNat byte.toNat).toNat.toUInt8 = byte
  rw [toNat_ofNat_byte]
  exact UInt8.ofNat_toNat

theorem bytesOf_encode (text : String) : bytesOf (encode text) = text.toUTF8.toList :=
  bytesOf_ofBytes _

/-- The characters for the bytes of a character. -/
def charactersFor (c : Char) : List Char :=
  (String.utf8EncodeChar c).map fun byte => Char.ofNat byte.toNat

theorem toList_encode (text : String) :
    (encode text).toList = text.toList.flatMap charactersFor := by
  rw [encode, String.toList_ofList, Text.toList_toUTF8, Text.bytes, List.map_flatMap]
  rfl

theorem encode_append (first second : String) :
    encode (first ++ second) = encode first ++ encode second := by
  rw [← String.toList_inj]
  simp only [toList_encode, String.toList_append, List.flatMap_append]

theorem encode_join (texts : List String) :
    encode (String.join texts) = String.join (texts.map encode) := by
  rw [← String.toList_inj]
  simp only [toList_encode, String.toList_join, List.flatMap_assoc, List.flatMap_map]

section Single

variable {mark : Char}

/-- A character of one byte is in the encoding of no other character. -/
theorem eq_of_mem_charactersFor (single : charactersFor mark = [mark]) {c : Char}
    (member : mark ∈ charactersFor c) : c = mark := by
  rcases List.map_eq_singleton_iff.mp single with ⟨byte, alone, stands⟩
  rcases List.mem_map.mp member with ⟨other, inside, same⟩
  have codes := congrArg Char.toNat (same.trans stands.symm)
  rw [toNat_ofNat_byte, toNat_ofNat_byte] at codes
  rcases UInt8.toNat_inj.mp codes with rfl
  have first : other.IsUTF8FirstByte := by
    have head : other ∈ (Text.bytes [mark]).head? := by
      rw [Text.bytes, List.flatMap_singleton, alone]
      rfl
    exact Text.isFirstByte_of_head head
  rcases List.append_of_mem inside with ⟨front, behind, split⟩
  rcases Text.eq_nil_of_isFirstByte first split with rfl
  have whole : Text.bytes [c] = Text.bytes [mark] ++ behind := by
    simp only [Text.bytes, List.flatMap_singleton, split, alone, List.nil_append]
    rfl
  rcases Text.exists_append_of_bytes_front whole with ⟨_, parts, -⟩
  exact (List.cons.inj parts).1

theorem mem_flatMap_charactersFor_iff (single : charactersFor mark = [mark]) {text : List Char} :
    mark ∈ text.flatMap charactersFor ↔ mark ∈ text := by
  rw [List.mem_flatMap]
  constructor
  · rintro ⟨c, inside, member⟩
    rwa [← eq_of_mem_charactersFor single member]
  · intro inside
    refine ⟨mark, inside, ?_⟩
    rw [single]
    exact List.mem_singleton_self mark

theorem mem_encode_iff (single : charactersFor mark = [mark]) {text : String} :
    mark ∈ (encode text).toList ↔ mark ∈ text.toList := by
  rw [toList_encode, mem_flatMap_charactersFor_iff single]

/-- A text of such characters is what it is encoded as. -/
theorem flatMap_charactersFor {text : List Char} (single : ∀ c ∈ text, charactersFor c = [c]) :
    text.flatMap charactersFor = text :=
  (List.flatMap_congr single).trans (List.flatMap_singleton' text)

end Single

theorem charactersFor_ne_nil (c : Char) : charactersFor c ≠ [] := by
  rw [charactersFor, ne_eq, List.map_eq_nil_iff]
  exact String.utf8EncodeChar_ne_nil

theorem charactersFor_apostrophe : charactersFor Builtin.apostrophe = [Builtin.apostrophe] := by
  decide +kernel

theorem flatMap_charactersFor_ne_nil {text : List Char} (filled : text ≠ []) :
    text.flatMap charactersFor ≠ [] := by
  cases text with
  | nil => contradiction
  | cons c text =>
      rw [List.flatMap_cons]
      exact List.append_ne_nil_of_left_ne_nil (charactersFor_ne_nil c) _

section Cut

variable {text plain marks others : List Char}

theorem Cut.charactersFor_of_mem (cut : Cut text plain marks others) :
    ∀ c ∈ marks, charactersFor c = [c] := by
  intro c member
  rw [cut.same c member, charactersFor_apostrophe]

theorem Cut.encode (cut : Cut text plain marks others) :
    Cut (text.flatMap charactersFor) (plain.flatMap charactersFor) marks
      (others.flatMap charactersFor) := by
  refine ⟨?_, ?_, cut.same, ?_, ?_⟩
  · rw [cut.whole, List.flatMap_append, List.flatMap_append,
      flatMap_charactersFor cut.charactersFor_of_mem]
  · rw [mem_flatMap_charactersFor_iff charactersFor_apostrophe]
    exact cut.inside
  · intro none
    rw [cut.alone none, List.flatMap_nil]
  · cases others with
    | nil => exact cut.next
    | cons c others =>
        intro member
        rw [List.flatMap_cons, List.head?_append_of_ne_nil _ (charactersFor_ne_nil c)] at member
        have same := eq_of_mem_charactersFor charactersFor_apostrophe (List.mem_of_mem_head? member)
        exact cut.next (congrArg some same)

theorem quotedWithin_encode {steps more : Nat} (enough : text.length < steps)
    (enoughMore : (text.flatMap charactersFor).length < more) :
    Builtin.quotedWithin more (text.flatMap charactersFor) =
      (Builtin.quotedWithin steps text).flatMap charactersFor := by
  induction steps generalizing text more with
  | zero => contradiction
  | succ steps ih =>
      cases more with
      | zero => contradiction
      | succ more =>
          rcases exists_cut text with ⟨plain, marks, others, cut⟩
          have front :
              (Builtin.apostrophe :: (plain ++ [Builtin.apostrophe])).flatMap charactersFor =
                Builtin.apostrophe :: (plain.flatMap charactersFor ++ [Builtin.apostrophe]) := by
            simp only [List.flatMap_cons, List.flatMap_append, charactersFor_apostrophe]
            rfl
          have between : (if marks.isEmpty then [] else '"' :: (marks ++ ['"'])).flatMap
              charactersFor = if marks.isEmpty then [] else '"' :: (marks ++ ['"']) := by
            apply flatMap_charactersFor
            split
            · exact List.forall_mem_nil _
            · have quote : charactersFor '"' = ['"'] := by decide +kernel
              refine List.forall_mem_cons.mpr ⟨quote, List.forall_mem_append.mpr ?_⟩
              exact ⟨cut.charactersFor_of_mem, List.forall_mem_singleton.mpr quote⟩
          have behind : (if others.isEmpty then [] else Builtin.quotedWithin steps others).flatMap
              charactersFor = if (others.flatMap charactersFor).isEmpty then [] else
                Builtin.quotedWithin more (others.flatMap charactersFor) := by
            by_cases further : others = []
            · rw [further]
              rfl
            · have furtherMore := flatMap_charactersFor_ne_nil further
              have shorter := Nat.lt_of_lt_of_le (cut.length_lt further) (Nat.le_of_lt_succ enough)
              have shorterMore := Nat.lt_of_lt_of_le (cut.encode.length_lt furtherMore)
                (Nat.le_of_lt_succ enoughMore)
              rw [List.isEmpty_eq_false_iff.mpr further, List.isEmpty_eq_false_iff.mpr furtherMore,
                if_neg Bool.false_ne_true, if_neg Bool.false_ne_true, ih shorter shorterMore]
          rw [cut.quotedWithin_eq, cut.encode.quotedWithin_eq, List.flatMap_append,
            List.flatMap_append, front, between, behind]

end Cut

/-- A text can be put in quotes before it is encoded or afterwards. -/
theorem encode_quoted (text : String) :
    encode (Builtin.quoted text) = Builtin.quoted (encode text) := by
  rw [← String.toList_inj, toList_encode, Builtin.quoted, Builtin.quoted, String.toList_ofList,
    String.toList_ofList, toList_encode, ← String.length_toList, ← String.length_toList,
    toList_encode]
  exact (quotedWithin_encode (Nat.lt_succ_self _) (Nat.lt_succ_self _)).symm

end EntryTree.Command
