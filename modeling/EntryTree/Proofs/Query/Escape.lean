import EntryTree.Proofs.Text.Encoding
import EntryTree.Query.Glob.Matching
import EntryTree.Query.Glob.Reader
import Mathlib.Data.List.Induction

/-!
# Escaped patterns

A backslash before every character of a text turns it into a pattern of literal parts, whatever the
characters are. What such parts leave of a subject is what stands behind the bytes of the text, and
a star leaves every end of it. Bytes come apart between characters, so the subjects of a pattern can
be told without their bytes.
-/

namespace EntryTree.Glob

open Text

variable {draft : Draft} {chars rest : List Char} {leftovers : Leftovers}

/-! ## Reading -/

/-- A text with a backslash before each of its characters. -/
def escape (chars : List Char) : List Char :=
  chars.flatMap fun c => ['\\', c]

@[inherit_doc escape]
def escaped (text : String) : String :=
  .ofList (escape text.toList)

/-- The pattern of the characters as they are. -/
def literals (chars : List Char) : List Part :=
  chars.map .literal

/-- The draft with some characters appended as they are. -/
def Draft.pushAll (draft : Draft) (chars : List Char) : Draft :=
  chars.foldl (fun draft c => draft.push (.literal c) c) draft

theorem Draft.parts_pushAll (draft : Draft) (chars : List Char) :
    (draft.pushAll chars).parts = (literals chars).reverse ++ draft.parts := by
  induction chars generalizing draft with
  | nil => rfl
  | cons c chars ih =>
      have pushed : (draft.pushAll (c :: chars)).parts = _ := ih (draft.push (.literal c) c)
      simp [pushed, literals, push]

theorem Draft.braces_pushAll (draft : Draft) (chars : List Char) :
    (draft.pushAll chars).braces = draft.braces := by
  induction chars generalizing draft with
  | nil => rfl
  | cons c chars ih => exact ih (draft.push (.literal c) c)

theorem readParts_escape (draft : Draft) (chars rest : List Char) :
    readParts draft (escape chars ++ rest) = readParts (draft.pushAll chars) rest := by
  induction chars generalizing draft with
  | nil => rfl
  | cons c chars ih =>
      have written : escape (c :: chars) ++ rest = '\\' :: c :: (escape chars ++ rest) := rfl
      rw [written, readParts, ih]
      rfl

/-- A star that no other one follows is a single star. -/
theorem readParts_star (single : ∀ c ∈ rest.head?, c ≠ '*') :
    readParts draft ('*' :: rest) = readParts (draft.push .anyBytes '*') rest := by
  rw [readParts]
  rintro others rfl
  exact single '*' rfl rfl

/-- A draft without open braces is finished by characters that are taken as they are. -/
theorem readParts_escape_end (closed : draft.braces = []) (chars : List Char) :
    readParts draft (escape chars) = .ok (draft.parts.reverse ++ literals chars) := by
  rw [← List.append_nil (escape chars), readParts_escape, readParts, Draft.finish,
    Draft.braces_pushAll, Draft.parts_pushAll, closed]
  simp

theorem head_escape (chars : List Char) : ∀ c ∈ (escape chars).head?, c ≠ '*' := by
  cases chars with
  | nil => exact nofun
  | cons c chars =>
      rintro _ ⟨⟩
      decide

theorem read_escaped (text : String) :
    Pattern.read (escaped text) = .ok (literals text.toList) := by
  rw [Pattern.read, escaped, String.toList_ofList, readParts_escape_end rfl]
  rfl

theorem read_escaped_star (before after : String) :
    Pattern.read (escaped before ++ "*" ++ escaped after) =
      .ok (literals before.toList ++ .anyBytes :: literals after.toList) := by
  have written : (escaped before ++ "*" ++ escaped after).toList =
      escape before.toList ++ '*' :: escape after.toList := by
    simp [escaped]
  have closed : ((Draft.pushAll .start before.toList).push .anyBytes '*').braces = [] :=
    Draft.braces_pushAll .start before.toList
  rw [Pattern.read, written, readParts_escape, readParts_star (head_escape _),
    readParts_escape_end closed, Draft.push, Draft.parts_pushAll]
  simp [Draft.start]

/-! ## Matching -/

theorem Leftovers.mem_afterBytes_iff {expected rest : List UInt8} :
    rest ∈ leftovers.afterBytes expected ↔ expected ++ rest ∈ leftovers := by
  simp only [Leftovers.afterBytes, List.mem_filterMap, List.isPrefixOf?_eq_some_iff_append_eq]
  constructor
  · rintro ⟨bytes, member, rfl⟩
    exact member
  · intro member
    exact ⟨_, member, rfl⟩

theorem Leftovers.mem_suffixes_iff {rest bytes : List UInt8} :
    rest ∈ Leftovers.suffixes bytes ↔ rest <:+ bytes := by
  induction bytes with
  | nil => simp [Leftovers.suffixes]
  | cons byte bytes ih => rw [Leftovers.suffixes, List.mem_cons, ih, List.suffix_cons_iff]

/-- The longest leftover is one of them, and none of them is longer. -/
theorem Leftovers.longest?_spec (leftovers : Leftovers) :
    match leftovers.longest? with
    | none => leftovers = []
    | some bytes => bytes ∈ leftovers ∧ ∀ other ∈ leftovers, other.length ≤ bytes.length := by
  unfold Leftovers.longest?
  induction leftovers using List.reverseRecOn with
  | nil => rfl
  | append_singleton leftovers bytes ih =>
      rw [List.foldl_append, List.foldl_cons, List.foldl_nil]
      generalize leftovers.foldl _ none = longest at ih ⊢
      cases longest with
      | none =>
          subst ih
          simp
      | some other =>
          rcases ih with ⟨member, bound⟩
          have bounded : ∀ limit : List UInt8, other.length ≤ limit.length →
              bytes.length ≤ limit.length →
              ∀ third ∈ leftovers ++ [bytes], third.length ≤ limit.length := by
            intro limit before last
            rw [List.forall_mem_append, List.forall_mem_singleton]
            exact ⟨fun third among => Nat.le_trans (bound third among) before, last⟩
          by_cases longer : other.length < bytes.length
          · simp only [longer, if_true]
            exact ⟨by simp, bounded bytes (Nat.le_of_lt longer) (Nat.le_refl _)⟩
          · simp only [longer, if_false]
            exact ⟨List.mem_append_left _ member,
              bounded other (Nat.le_refl _) (Nat.not_lt.mp longer)⟩

/-- Any bytes leave every end of a leftover. As all of them are ends of one subject, the longest
stands for the others. -/
theorem Leftovers.mem_afterAny_iff {subject rest : List UInt8}
    (ends : ∀ bytes ∈ leftovers, bytes <:+ subject) :
    rest ∈ leftovers.afterAny ↔ ∃ bytes ∈ leftovers, rest <:+ bytes := by
  have longest := Leftovers.longest?_spec leftovers
  unfold Leftovers.afterAny
  split at longest
  · next nothing =>
      rw [nothing]
      simp [longest]
  · next bytes found =>
      rcases longest with ⟨member, bound⟩
      rw [found, Leftovers.mem_suffixes_iff]
      constructor
      · intro suffix
        exact ⟨bytes, member, suffix⟩
      · rintro ⟨other, among, suffix⟩
        exact suffix.trans
          (List.suffix_of_suffix_length_le (ends other among) (ends bytes member)
            (bound other among))

theorem after_append (leftovers : Leftovers) (parts others : List Part) :
    after leftovers (parts ++ others) = after (after leftovers parts) others := by
  induction parts generalizing leftovers with
  | nil => rfl
  | cons part parts ih => exact ih (part.after leftovers)

/-- What literal parts leave is what stands behind the bytes of their characters. -/
theorem mem_after_literals_iff {rest : List UInt8} :
    rest ∈ after leftovers (literals chars) ↔ bytes chars ++ rest ∈ leftovers := by
  induction chars generalizing leftovers with
  | nil => rfl
  | cons c chars ih =>
      have encoded : encoding c = bytes [c] := by
        rw [encoding, toList_toUTF8, String.toList_singleton]
      have step : after leftovers (literals (c :: chars)) =
          after (leftovers.afterBytes (encoding c)) (literals chars) := rfl
      rw [step, ih, Leftovers.mem_afterBytes_iff, encoded, ← List.append_assoc, ← bytes_append,
        List.singleton_append]

/-- Except for levels of directories alone, a pattern matches if it can leave nothing. -/
theorem matches_iff {pattern : Pattern} {subject : String}
    (free : Part.leadingLevels ∉ pattern) :
    pattern.matches subject = true ↔ [] ∈ after [bytes subject.toList] pattern := by
  unfold Pattern.matches
  split
  · simp at free
  · rw [toList_toUTF8, List.any_eq_true]
    simp only [List.isEmpty_iff, exists_eq_right]

theorem leadingLevels_not_mem_literals (chars : List Char) :
    Part.leadingLevels ∉ literals chars := by
  simp [literals]

theorem matches_literals_iff {text subject : String} :
    Pattern.matches (literals text.toList) subject = true ↔ subject = text := by
  rw [matches_iff (leadingLevels_not_mem_literals _), mem_after_literals_iff, List.append_nil,
    List.mem_singleton, bytes_inj, String.toList_inj, eq_comm]

/-- Between two texts a star leaves room for anything, nothing included. -/
theorem matches_literals_star_iff {before after subject : String} :
    Pattern.matches (literals before.toList ++ .anyBytes :: literals after.toList) subject = true ↔
      ∃ middle, subject.toList = before.toList ++ (middle ++ after.toList) := by
  have free :
      Part.leadingLevels ∉ literals before.toList ++ .anyBytes :: literals after.toList := by
    simp [literals]
  have ends : ∀ leftover ∈ Glob.after [bytes subject.toList] (literals before.toList),
      leftover <:+ bytes subject.toList := by
    intro leftover member
    rw [mem_after_literals_iff, List.mem_singleton] at member
    exact ⟨_, member⟩
  have step : Glob.after [bytes subject.toList]
      (literals before.toList ++ .anyBytes :: literals after.toList) =
        Glob.after (Glob.after [bytes subject.toList] (literals before.toList)).afterAny
          (literals after.toList) := after_append _ _ _
  rw [matches_iff free, step, mem_after_literals_iff, List.append_nil,
    Leftovers.mem_afterAny_iff ends]
  simp only [mem_after_literals_iff, List.mem_singleton]
  constructor
  · rintro ⟨leftover, whole, front, rfl⟩
    rcases exists_append_of_bytes_front whole.symm with ⟨rest, split, left⟩
    rcases exists_append_of_bytes_end left.symm with ⟨middle, rfl, _⟩
    exact ⟨middle, split⟩
  · rintro ⟨middle, split⟩
    refine ⟨bytes (middle ++ after.toList), ?_, bytes middle, (bytes_append _ _).symm⟩
    rw [split, ← bytes_append]

theorem exists_middle_iff {α : Type} {front behind whole : List α} :
    (∃ middle, whole = front ++ (middle ++ behind)) ↔
      front <+: whole ∧ behind <:+ whole ∧ front.length + behind.length ≤ whole.length := by
  constructor
  · rintro ⟨middle, rfl⟩
    refine ⟨List.prefix_append _ _, ?_, ?_⟩
    · rw [← List.append_assoc]
      exact List.suffix_append _ _
    · simp only [List.length_append]
      omega
  · rintro ⟨⟨rest, rfl⟩, suffix, fits⟩
    rw [List.length_append, Nat.add_le_add_iff_left] at fits
    rcases List.suffix_of_suffix_length_le suffix (List.suffix_append _ _) fits with
      ⟨middle, rfl⟩
    exact ⟨middle, rfl⟩

/-- Escaped texts are patterns for themselves, whatever their characters are: a text alone matches
the one subject that it is, and two of them around a star match the subjects that start with the
first, end with the second and are at least as long as both. -/
theorem ofToken_escaped (text before after : String) :
    (∃ pattern, Pattern.ofToken (escaped text) = .ok pattern ∧
      ∀ subject, pattern.matches subject = true ↔ subject = text) ∧
    ∃ pattern, Pattern.ofToken (escaped before ++ "*" ++ escaped after) = .ok pattern ∧
      ∀ subject, pattern.matches subject = true ↔
        before.toList <+: subject.toList ∧ after.toList <:+ subject.toList ∧
          before.length + after.length ≤ subject.length := by
  refine ⟨⟨literals text.toList, ?_, fun _ => matches_literals_iff⟩,
    ⟨literals before.toList ++ .anyBytes :: literals after.toList, ?_, fun subject => ?_⟩⟩
  · rw [Pattern.ofToken, read_escaped]
    rfl
  · rw [Pattern.ofToken, read_escaped_star]
    rfl
  · rw [matches_literals_star_iff, exists_middle_iff, String.length_toList, String.length_toList,
      String.length_toList]

end EntryTree.Glob
