import EntryTree.Proofs.Command.Words

/-!
# What words stand for

A word of plain characters and of texts in quotes stands for the text that is in it, whatever the
separators are, whatever paths there are and whatever the options say: it is one field, and it is
what a variable is assigned. Nothing is left of the places where a quoted text could be cut or
replaced, since all of its characters are marked.
-/

namespace EntryTree.Command

open Shell

/-- The parts of a piece that is a text or a pair of quotes. -/
def partsOfPiece : Piece → List Part
  | .text characters quoted => partsOf (if quoted then .quoted else .literal) characters
  | _ => [.presence]

/-- The characters of a piece and where they come from. -/
def marksOfPiece : Piece → List (Char × Shell.Mark)
  | .text characters quoted =>
    characters.toList.map (·, if quoted then .quoted else .literal)
  | _ => []

/-- A word begins with a plain character or with quotes, by which it is there. -/
def Begins (word : Word) : Prop :=
  word ≠ [] ∧ ∀ characters, word.head? ≠ some (.text characters true)

theorem textOf_append (between : String) (first second : List Part) :
    textOf between (first ++ second) = textOf between first ++ textOf between second := by
  rw [← String.toList_inj, String.toList_append]
  simp only [textOf, String.toList_join, List.map_append, List.flatMap_append]

theorem textOf_partsOf (between : String) (mark : Shell.Mark) (characters : String) :
    textOf between (partsOf mark characters) = characters := by
  rw [← String.toList_inj, textOf, String.toList_join, partsOf, List.map_map, List.flatMap_map]
  refine (List.flatMap_congr fun c _ => ?_).trans (List.flatMap_singleton' characters.toList)
  exact String.toList_singleton c

namespace Tells

variable {word : Word} {text : List Char}

/-! ### Expansion -/

theorem mapM_expandPiece (tells : Tells word text) (level : Level)
    (expand : Word → Work (List Part)) :
    word.mapM (expandPiece level expand) = pure (word.map partsOfPiece) := by
  induction tells with
  | nil => rfl
  | plain _ _ ih | quotes _ ih | quoted _ _ ih =>
      rw [List.mapM_cons, ih]
      rfl

theorem expandWord_eq (tells : Tells word text) (level : Level) (depth : Nat) :
    expandWord level (depth + 1) word = pure (word.map partsOfPiece).flatten := by
  rw [expandWord, tells.mapM_expandPiece, pure_bind]

/-- The pieces that there are in such a word. -/
theorem piece_of_mem (tells : Tells word text) : ∀ piece ∈ word,
    piece = .quotes ∨ (∃ characters, piece = .text characters true) ∨
      ∃ c, Readers.isPlain c = true ∧ piece = .text (String.singleton c) false := by
  induction tells with
  | nil => exact List.forall_mem_nil _
  | plain plain _ ih => exact List.forall_mem_cons.mpr ⟨.inr (.inr ⟨_, plain, rfl⟩), ih⟩
  | quotes _ ih => exact List.forall_mem_cons.mpr ⟨.inl rfl, ih⟩
  | quoted characters _ ih => exact List.forall_mem_cons.mpr ⟨.inr (.inl ⟨characters, rfl⟩), ih⟩

theorem singleton_ne {c other : Char} (plain : Readers.isPlain c = true)
    (odd : Readers.isPlain other = false) : String.singleton c ≠ String.singleton other := by
  intro same
  have characters := congrArg String.toList same
  simp only [String.toList_singleton, List.cons.injEq, and_true] at characters
  exact Readers.ne_of_isPlain plain odd characters

theorem expandTilde_eq (tells : Tells word text) (shell : Shell) (colons : Bool) :
    expandTilde shell colons word = word := by
  rw [expandTilde.eq_def]
  split
  · next rest =>
      cases piece_of_mem tells _ List.mem_cons_self with
      | inl same => cases same
      | inr others =>
          rcases others with ⟨characters, same⟩ | ⟨c, plain, same⟩
          · cases same
          · have tilde := (Piece.text.inj same).1
            have odd : Readers.isPlain '~' = false := by decide +kernel
            exact absurd tilde.symm (singleton_ne plain odd)
  · rfl

theorem expandTildes_eq (tells : Tells word text) (shell : Shell) (steps : Nat) :
    expandTildes shell steps word = word := by
  cases steps with
  | zero => rfl
  | succ steps =>
      rw [expandTildes.eq_def]
      simp only [tells.expandTilde_eq]
      cases word with
      | nil => rfl
      | cons first others =>
          have uncut : ∀ p : Piece → Bool, (∀ piece ∈ first :: others, p piece = true) →
              (first :: others).takeWhile p = first :: others := by
            intro p all
            exact List.takeWhile_eq_self_iff.mpr all
          simp only
          rw [uncut, List.drop_length]
          intro piece member
          rcases tells.piece_of_mem piece member with rfl | ⟨characters, rfl⟩ | ⟨c, plain, rfl⟩
          · rfl
          · simp
          · have other := singleton_ne plain (by decide +kernel : Readers.isPlain ':' = false)
            rw [Bool.not_eq_true']
            split
            · next same => exact absurd (Piece.text.inj same).1 other
            · rfl

theorem textOf_parts (tells : Tells word text) (between : String) :
    textOf between (word.map partsOfPiece).flatten = String.ofList text := by
  induction tells with
  | nil => rfl
  | quotes _ ih =>
      rw [List.map_cons, List.flatten_cons, textOf_append, ih]
      exact String.empty_append
  | plain _ _ ih =>
      rw [List.map_cons, List.flatten_cons, textOf_append, ih, String.ofList_cons]
      exact congrArg (· ++ _) (textOf_partsOf between .literal (String.singleton _))
  | quoted characters _ ih =>
      rw [List.map_cons, List.flatten_cons, textOf_append, ih, String.ofList_append,
        String.ofList_toList]
      exact congrArg (· ++ _) (textOf_partsOf between .quoted characters)

/-- What a variable is assigned by such a word. -/
theorem run_assignedText (tells : Tells word text) (level : Level) (shell : Shell) :
    (assignedText level word).run.run shell = (.ok (String.ofList text), shell) := by
  have expanded : assignedText level word = do
      let _ ← get
      let shell ← get
      return textOf (joiner shell) (word.map partsOfPiece).flatten := by
    rw [assignedText]
    simp only [tells.expandTildes_eq, wordDepth, tells.expandWord_eq, pure_bind, joined]
  rw [expanded]
  show (Except.ok (textOf (joiner shell) (word.map partsOfPiece).flatten), shell) = _
  rw [tells.textOf_parts]

/-! ### Fields -/

/-- Parts that are no values of something go on with the field. -/
theorem split_characters {separators : String} {characters : List Char} {mark : Shell.Mark}
    {parts : List Part} {field : List (Char × Shell.Mark)} (written : mark ≠ .expanded)
    (further : ∀ (draft : Draft) (closed : Bool), draft.present = true →
      split separators draft closed parts = [draft.characters.reverse ++ field])
    (draft : Draft) (closed : Bool) (present : draft.present = true) :
    split separators draft closed (characters.map (.character · mark) ++ parts) =
      [draft.characters.reverse ++ (characters.map (·, mark) ++ field)] := by
  induction characters generalizing draft closed with
  | nil => exact further draft closed present
  | cons c characters ih =>
      have next := ih ⟨(c, mark) :: draft.characters, true⟩ false rfl
      simpa [split, written] using next

theorem split_parts (tells : Tells word text) (separators : String) (draft : Draft) (closed : Bool)
    (present : draft.present = true) :
    split separators draft closed (word.map partsOfPiece).flatten =
      [draft.characters.reverse ++ (word.map marksOfPiece).flatten] := by
  induction tells generalizing draft closed with
  | nil => simp [split, present]
  | plain _ _ ih => exact split_characters (by decide) ih draft closed present
  | quotes _ ih => exact ih { draft with present := true } false rfl
  | quoted characters _ ih => exact split_characters (by decide) ih draft closed present

theorem split_word (tells : Tells word text) (begins : Begins word) (separators : String) :
    split separators ⟨[], false⟩ false (word.map partsOfPiece).flatten =
      [(word.map marksOfPiece).flatten] := by
  cases tells with
  | nil => exact absurd rfl begins.1
  | @plain c word text plain tells =>
      have first : (partsOfPiece (.text (String.singleton c) false)) = [.character c .literal] := by
        simp [partsOfPiece, partsOf]
      rw [List.map_cons, List.flatten_cons, first]
      have further := tells.split_parts separators ⟨[(c, .literal)], true⟩ false rfl
      simpa [split, marksOfPiece] using further
  | quotes tells => exact tells.split_parts separators ⟨[], true⟩ false rfl
  | quoted characters tells => exact absurd rfl (begins.2 characters)

theorem isPattern_of_literal {pattern : List PatternCharacter}
    (literal : ∀ character ∈ pattern,
      character.active = false ∨ Readers.isPlain character.character = true) :
    isPattern pattern = false := by
  have absent : ∀ odd, Readers.isPlain odd = false →
      odd ∉ (pattern.filter (·.active)).map (·.character) := by
    intro odd strange member
    rcases List.mem_map.mp member with ⟨character, kept, rfl⟩
    rcases List.mem_filter.mp kept with ⟨inside, active⟩
    rcases literal character inside with inactive | plain
    · rw [inactive] at active
      contradiction
    · rw [plain] at strange
      contradiction
  have uncut : ((pattern.filter (·.active)).map (·.character)).dropWhile (· != '[') = [] := by
    rw [List.dropWhile_eq_nil_iff]
    exact Text.bne_of_not_mem (absent '[' (by decide +kernel))
  simp only [isPattern, uncut, List.contains_eq_mem, absent '*' (by decide +kernel),
    absent '?' (by decide +kernel), decide_false, Bool.or_self, List.not_mem_nil]

theorem marks_fst (tells : Tells word text) :
    (word.map marksOfPiece).flatten.map Prod.fst = text := by
  induction tells with
  | nil => rfl
  | plain _ _ ih => simp [marksOfPiece, ih]
  | quotes _ ih => exact ih
  | quoted characters _ ih =>
      rw [List.map_cons, List.flatten_cons, List.map_append, ih, marksOfPiece, List.map_map]
      exact congrArg (· ++ _) (List.map_id characters.toList)

theorem mark_of_mem (tells : Tells word text) :
    ∀ entry ∈ (word.map marksOfPiece).flatten,
      entry.2 = .quoted ∨ Readers.isPlain entry.1 = true := by
  induction tells with
  | nil => exact List.forall_mem_nil _
  | @plain c word text plain _ ih =>
      have first : marksOfPiece (.text (String.singleton c) false) = [(c, .literal)] := by
        simp [marksOfPiece]
      rw [List.map_cons, List.flatten_cons, first]
      exact List.forall_mem_cons.mpr ⟨.inr plain, ih⟩
  | quotes _ ih => exact ih
  | quoted characters _ ih =>
      rw [List.map_cons, List.flatten_cons]
      apply List.forall_mem_append.mpr ⟨?_, ih⟩
      intro entry member
      rcases List.mem_map.mp member with ⟨c, _, rfl⟩
      exact .inl rfl

theorem paths_eq (tells : Tells word text) (shell : Shell) :
    paths shell (word.map marksOfPiece).flatten = [String.ofList text] := by
  rw [paths]
  dsimp only
  rw [isPattern_of_literal, tells.marks_fst]
  · rfl
  · intro character member
    rcases List.mem_map.mp member with ⟨entry, inside, rfl⟩
    rcases tells.mark_of_mem entry inside with quoted | plain
    · left
      show (entry.2 != .quoted) = false
      rw [quoted]
      rfl
    · exact .inr plain

/-- The field that such a word stands for. -/
theorem run_fieldsOf (tells : Tells word text) (begins : Begins word) (level : Level)
    (shell : Shell) :
    (fieldsOf level word).run.run shell = (.ok [String.ofList text], shell) := by
  have expanded : fieldsOf level word = do
      let _ ← get
      let shell ← get
      return (split shell.separators ⟨[], false⟩ false
        (word.map partsOfPiece).flatten).flatMap (paths shell) := by
    rw [fieldsOf]
    simp only [tells.expandTilde_eq, wordDepth, tells.expandWord_eq, pure_bind]
  rw [expanded]
  show (Except.ok ((split shell.separators ⟨[], false⟩ false
    (word.map partsOfPiece).flatten).flatMap (paths shell)), shell) = _
  rw [tells.split_word begins, List.flatMap_singleton, tells.paths_eq]

end Tells
end EntryTree.Command
