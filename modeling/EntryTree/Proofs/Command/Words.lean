import EntryTree.Command.Shell.Builtin.Basic
import EntryTree.Proofs.Text.Characters

/-!
# Words of scripts

A word of a script may be plain, in quotes, or both in turns. What a shell lists of its variables
it lists in quotes, so that scripts can read it again: a text in quotes, whatever is in it, is one
word, and the word tells the text.

A reader is described by what it takes off the front of a source (`Reads`), so that readers one
behind the other take texts one behind the other. The quotes are a chain of texts without an
apostrophe and of runs of apostrophes, and the induction follows the chain, with one rung of
readers for each link.
-/

namespace EntryTree.Command

/-- A reader takes a text off the front of a source. Lines are counted; a lexeme that was put back
stays there. -/
def Reads {α : Type} (reading : Reading α) (front rest : List Char) (value : α) : Prop :=
  ∀ source : Source, source.characters = front ++ rest →
    ∃ after, reading.run source = .ok (value, after) ∧ after.characters = rest ∧
      after.back = source.back

namespace Reads

variable {α β : Type} {reading : Reading α} {front behind rest : List Char} {value : α}

theorem pure (value : α) (rest : List Char) : Reads (Pure.pure value) [] rest value :=
  fun source whole => ⟨source, rfl, whole, rfl⟩

theorem bind {next : α → Reading β} {result : β}
    (first : Reads reading front (behind ++ rest) value)
    (second : Reads (next value) behind rest result) :
    Reads (reading >>= next) (front ++ behind) rest result := by
  intro source whole
  rw [List.append_assoc] at whole
  rcases first source whole with ⟨between, ran, left, back⟩
  rcases second between left with ⟨after, ranOn, leftOver, stays⟩
  refine ⟨after, ?_, leftOver, stays.trans back⟩
  rw [StateT.run_bind, ran]
  exact ranOn

theorem andThen {next : α → Reading β} {result : β} (first : Reads reading front rest value)
    (second : Reads (next value) [] rest result) : Reads (reading >>= next) front rest result := by
  have whole : Reads (reading >>= next) (front ++ []) rest result := Reads.bind first second
  rwa [List.append_nil] at whole

theorem map {change : α → β} (reads : Reads reading front rest value) :
    Reads (change <$> reading) front rest (change value) := by
  rw [← bind_pure_comp]
  exact reads.andThen (pure (change value) rest)

/-- A reader may begin by looking at what is there. -/
theorem get_bind {next : Source → Reading β} {result : β}
    (reads : ∀ source : Source, source.characters = front ++ rest →
      Reads (next source) front rest result) :
    Reads (get >>= next) front rest result :=
  fun source whole => reads source whole source whole

end Reads

theorem reads_skip (c : Char) (rest : List Char) : Reads Reading.skip [c] rest () := by
  intro source whole
  rcases source with ⟨characters, line, removed, back⟩
  subst whole
  refine ⟨_, rfl, ?_, ?_⟩
  all_goals
    dsimp only [List.singleton_append]
    split <;> simp_all

theorem reads_takeUntil {closing : Char} {body : List Char} (inside : closing ∉ body)
    (message : String) (rest : List Char) :
    Reads (Reading.takeUntil closing message) (body ++ [closing]) rest (String.ofList body) := by
  intro source whole
  have other := Text.bne_of_not_mem inside
  have front : source.characters.takeWhile (· != closing) = body := by
    rw [whole, List.append_assoc, List.takeWhile_append_of_pos other]
    simp
  have behind : source.characters.dropWhile (· != closing) = closing :: rest := by
    rw [whole, List.append_assoc, List.dropWhile_append_of_pos other]
    simp
  simp only [Reading.takeUntil, StateT.run_bind, StateT.run_get, pure_bind, front, behind]
  exact ⟨_, rfl, rfl, rfl⟩

/-! ### Pieces -/

/-- A character does not end the pieces of a region that is open to the end of a word or of
quotes. -/
def Region.GoesOn (region : Region) (c : Char) : Prop :=
  region.closing = .word ∧ wordEnds.contains c = false ∨ region.closing = .quote ∧ c ≠ '"'

namespace Readers

variable {readers : Readers} {region : Region} {front behind rest : List Char} {c : Char}
  {word more : Word}

theorem reads_readPieces_cons (goesOn : region.GoesOn c)
    (first : Reads (readers.piece region c) (c :: front) (behind ++ rest) word)
    (further : Reads (readers.pieces region) behind rest more) :
    Reads (readers.readPieces region) (c :: front ++ behind) rest (word ++ more) := by
  have both : Reads (do return (← readers.piece region c) ++ (← readers.pieces region))
      (c :: front ++ behind) rest (word ++ more) :=
    first.bind (further.andThen (.pure (word ++ more) rest))
  rw [readPieces, Reading.peek, bind_assoc]
  refine Reads.get_bind fun source whole => ?_
  rw [pure_bind, whole]
  rcases region with ⟨closing, quoted⟩
  rcases goesOn with ⟨rfl, inside⟩ | ⟨rfl, inside⟩
  · simp only [List.cons_append, List.head?_cons, inside, Bool.false_eq_true, if_false]
    exact both
  · simp only [List.cons_append, List.head?_cons, inside, if_false]
    exact both

theorem reads_readPieces_word (ends : ∀ c ∈ rest.head?, wordEnds.contains c = true) :
    Reads (readers.readPieces ⟨.word, false⟩) [] rest [] := by
  rw [readPieces, Reading.peek, bind_assoc]
  refine Reads.get_bind fun source whole => ?_
  rw [pure_bind, whole]
  cases rest with
  | nil => exact .pure [] []
  | cons c rest =>
      simp only [List.nil_append, List.head?_cons, ends c rfl, if_true]
      exact .pure [] _

theorem reads_readPieces_quote :
    Reads (readers.readPieces ⟨.quote, true⟩) ['"'] rest [] := by
  rw [readPieces, Reading.peek, bind_assoc]
  refine Reads.get_bind fun source whole => ?_
  rw [pure_bind, whole]
  exact (reads_skip '"' rest).andThen (.pure [] rest)

/-- A text without apostrophes between two of them. -/
theorem reads_piece_apostrophe {body : List Char} (inside : Builtin.apostrophe ∉ body) :
    Reads (readers.piece ⟨.word, false⟩ Builtin.apostrophe)
      (Builtin.apostrophe :: (body ++ [Builtin.apostrophe])) rest
      [.quotes, .text (String.ofList body) true] := by
  have between := reads_takeUntil inside "Unterminated quoted string" rest
  exact (reads_skip Builtin.apostrophe _).bind (between.andThen (.pure _ rest))

/-- The characters that mean nothing but themselves wherever they stand in a word. -/
def isPlain (c : Char) : Bool :=
  c.isAlphanum || ['%', '+', ',', '-', '.', '/', '=', '@', '_'].contains c

theorem ne_of_isPlain {other : Char} (plain : isPlain c = true) (odd : isPlain other = false) :
    c ≠ other := by
  rintro rfl
  rw [plain] at odd
  contradiction

theorem reads_piece_plain (plain : isPlain c = true) :
    Reads (readers.piece ⟨.word, false⟩ c) [c] rest [.text (String.singleton c) false] := by
  have backslash : c ≠ '\\' := ne_of_isPlain plain (by decide +kernel)
  have dollar : c ≠ '$' := ne_of_isPlain plain (by decide +kernel)
  have backward : c ≠ '`' := ne_of_isPlain plain (by decide +kernel)
  have apostrophe : c ≠ '\'' := ne_of_isPlain plain (by decide +kernel)
  have quote : c ≠ '"' := ne_of_isPlain plain (by decide +kernel)
  simp only [piece, backslash, dollar, backward, apostrophe, quote, if_false, Bool.false_and,
    Bool.false_eq_true, decide_false]
  exact (reads_skip c rest).andThen (.pure _ rest)

theorem contains_wordEnds_of_isPlain (plain : isPlain c = true) : wordEnds.contains c = false := by
  rw [List.contains_eq_mem, decide_eq_false_iff_not]
  intro member
  have odd : wordEnds.all (!isPlain ·) = true := by decide +kernel
  have strange := List.all_eq_true.mp odd c member
  rw [plain] at strange
  contradiction

/-- The characters that mean nothing else in quotes, but may end them. -/
def isPlainInQuotes (c : Char) : Bool :=
  c != '\\' && c != '$' && c != '`' && c != '"'

theorem reads_piece_quoted (plain : isPlainInQuotes c = true) :
    Reads (readers.piece ⟨.quote, true⟩ c) [c] rest [.text (String.singleton c) true] := by
  simp only [isPlainInQuotes, Bool.and_eq_true, bne_iff_ne, ne_eq] at plain
  rcases plain with ⟨⟨⟨backslash, dollar⟩, backward⟩, quote⟩
  simp only [piece, backslash, dollar, backward, quote, if_false, Bool.not_true, Bool.and_false,
    Bool.false_eq_true, decide_false, Bool.false_and]
  exact (reads_skip c rest).andThen (.pure _ rest)

theorem reads_quote {height : Nat} {body : List Char} (plain : ∀ c ∈ body, isPlainInQuotes c = true)
    (high : body.length < height) :
    Reads ((ofHeight height).pieces ⟨.quote, true⟩) (body ++ ['"']) rest
      (body.map fun c => .text (String.singleton c) true) := by
  induction body generalizing height with
  | nil =>
      cases height with
      | zero => exact absurd high (Nat.not_lt_zero _)
      | succ height => exact reads_readPieces_quote
  | cons c body ih =>
      cases height with
      | zero => exact absurd high (Nat.not_lt_zero _)
      | succ height =>
          rw [List.forall_mem_cons] at plain
          have goesOn : Region.GoesOn ⟨.quote, true⟩ c := by
            refine .inr ⟨rfl, ?_⟩
            rintro rfl
            simp [isPlainInQuotes] at plain
          exact reads_readPieces_cons goesOn (reads_piece_quoted plain.1)
            (ih plain.2 (Nat.lt_of_succ_lt_succ high))

/-- Plain characters in quotes of the kind in which others could have a meaning. -/
theorem reads_piece_quote {height : Nat} {body : List Char}
    (plain : ∀ c ∈ body, isPlainInQuotes c = true) (high : body.length < height) :
    Reads ((ofHeight height).piece ⟨.word, false⟩ '"') ('"' :: (body ++ ['"'])) rest
      (.quotes :: body.map fun c => .text (String.singleton c) true) := by
  have ordinary : isAllParameters (body.map fun c => .text (String.singleton c) true) = false := by
    rcases body with _ | ⟨_, _ | _⟩ <;> rfl
  refine (reads_skip '"' _).bind ((reads_quote plain high).andThen ?_)
  rw [ordinary]
  exact .pure _ rest

end Readers

/-! ### Words and what they tell -/

/-- A word of plain characters and of pieces in quotes, and the text that is in them. -/
inductive Tells : Word → List Char → Prop
  | nil : Tells [] []
  | plain {c : Char} {word : Word} {text : List Char} (plain : Readers.isPlain c = true)
      (tells : Tells word text) : Tells (.text (String.singleton c) false :: word) (c :: text)
  | quotes {word : Word} {text : List Char} (tells : Tells word text) : Tells (.quotes :: word) text
  | quoted {word : Word} {text : List Char} (characters : String) (tells : Tells word text) :
      Tells (.text characters true :: word) (characters.toList ++ text)

namespace Tells

theorem append {first second : Word} {front behind : List Char} (tells : Tells first front)
    (tellsBehind : Tells second behind) : Tells (first ++ second) (front ++ behind) := by
  induction tells with
  | nil => exact tellsBehind
  | plain plain _ ih => exact .plain plain ih
  | quotes _ ih => exact .quotes ih
  | quoted characters _ ih =>
      rw [List.append_assoc]
      exact .quoted characters ih

theorem of_plain {text : List Char} (plain : ∀ c ∈ text, Readers.isPlain c = true) :
    Tells (text.map fun c => .text (String.singleton c) false) text := by
  induction text with
  | nil => exact .nil
  | cons c text ih =>
      rw [List.forall_mem_cons] at plain
      exact .plain plain.1 (ih plain.2)

theorem singletons (text : List Char) :
    Tells (text.map fun c => .text (String.singleton c) true) text := by
  induction text with
  | nil => exact .nil
  | cons c text ih =>
      have first := Tells.quoted (String.singleton c) ih
      rwa [String.toList_singleton] at first

end Tells

/-- A text is made of one without apostrophes, a run of apostrophes, and what is behind them. -/
structure Cut (text plain marks others : List Char) : Prop where
  whole : text = plain ++ (marks ++ others)
  inside : Builtin.apostrophe ∉ plain
  same : ∀ c ∈ marks, c = Builtin.apostrophe
  alone : marks = [] → others = []
  next : Builtin.apostrophe ∉ others.head?

theorem exists_cut (text : List Char) : ∃ plain marks others, Cut text plain marks others := by
  let behind := text.dropWhile (· != Builtin.apostrophe)
  refine ⟨text.takeWhile (· != Builtin.apostrophe), behind.takeWhile (· == Builtin.apostrophe),
    behind.dropWhile (· == Builtin.apostrophe), ?_, ?_, ?_, ?_, ?_⟩
  · rw [List.takeWhile_append_dropWhile, List.takeWhile_append_dropWhile]
  · intro member
    have differs := List.mem_takeWhile_imp member
    simp at differs
  · intro c member
    exact beq_iff_eq.mp (List.mem_takeWhile_imp (p := (· == Builtin.apostrophe)) member)
  · intro none
    cases found : behind with
    | nil => rfl
    | cons c rest =>
        have first := List.head?_dropWhile_not (· != Builtin.apostrophe) text
        rw [show text.dropWhile (· != Builtin.apostrophe) = c :: rest from found] at first
        rw [found] at none
        simp_all
  · intro member
    have first := List.head?_dropWhile_not (· == Builtin.apostrophe) behind
    rw [Option.mem_def.mp member] at first
    contradiction

namespace Cut

variable {text plain marks others : List Char}

/-- What is left is shorter, since there is an apostrophe before it. -/
theorem length_lt (cut : Cut text plain marks others) (further : others ≠ []) :
    others.length < text.length := by
  have marked : 0 < marks.length := List.length_pos_iff.mpr (mt cut.alone further)
  rw [cut.whole, List.length_append, List.length_append]
  omega

/-- What is in quotes follows the cut. -/
theorem quotedWithin_eq (cut : Cut text plain marks others) (steps : Nat) :
    Builtin.quotedWithin (steps + 1) text =
      Builtin.apostrophe :: (plain ++ [Builtin.apostrophe]) ++
        ((if marks.isEmpty then [] else '"' :: (marks ++ ['"'])) ++
          if others.isEmpty then [] else Builtin.quotedWithin steps others) := by
  have ends : (marks ++ others).takeWhile (· != Builtin.apostrophe) = [] := by
    cases marks with
    | nil => rw [cut.alone rfl, List.append_nil, List.takeWhile_nil]
    | cons mark marks =>
        rw [cut.same mark List.mem_cons_self]
        rfl
  have front : text.takeWhile (· != Builtin.apostrophe) = plain := by
    rw [cut.whole, List.takeWhile_append_of_pos (Text.bne_of_not_mem cut.inside), ends,
      List.append_nil]
  have stops : others.takeWhile (· == Builtin.apostrophe) = [] := by
    cases others with
    | nil => rfl
    | cons c others =>
        have other : c ≠ Builtin.apostrophe := fun same => cut.next (congrArg some same)
        simp [other]
  have run : (marks ++ others).takeWhile (· == Builtin.apostrophe) = marks := by
    rw [List.takeWhile_append_of_pos fun c member => beq_iff_eq.mpr (cut.same c member), stops,
      List.append_nil]
  have behind : text.drop plain.length = marks ++ others := by rw [cut.whole, List.drop_left]
  simp only [Builtin.quotedWithin, front, behind, run, List.drop_left, List.append_assoc,
    List.cons_append]

end Cut

/-- A text spells a word: so read it all rungs from some height on, before whatever ends a word. -/
def Spells (height : Nat) (characters : List Char) (word : Word) : Prop :=
  ∀ higher rest, height ≤ higher → (∀ c ∈ rest.head?, wordEnds.contains c = true) →
    Reads ((Readers.ofHeight higher).pieces ⟨.word, false⟩) characters rest word

namespace Spells

theorem nil : Spells 1 [] [] := by
  intro higher rest high ends
  obtain ⟨lower, rfl⟩ := Nat.exists_eq_add_of_le' high
  exact Readers.reads_readPieces_word ends

/-- One piece in front of what is spelled further on, which is read one rung below. -/
theorem cons {height : Nat} {front behind : List Char} {c : Char} {word more : Word}
    (goesOn : wordEnds.contains c = false)
    (first : ∀ higher rest, height ≤ higher →
      Reads ((Readers.ofHeight higher).piece ⟨.word, false⟩ c) (c :: front) rest word)
    (further : Spells height behind more) :
    Spells (height + 1) (c :: front ++ behind) (word ++ more) := by
  intro higher rest high ends
  obtain ⟨lower, rfl⟩ := Nat.exists_eq_add_of_le' (Nat.le_trans (Nat.le_add_left 1 height) high)
  have lowerHigh : height ≤ lower := Nat.le_of_succ_le_succ high
  exact Readers.reads_readPieces_cons (.inl ⟨rfl, goesOn⟩) (first lower _ lowerHigh)
    (further lower rest lowerHigh ends)

theorem mono {height higher : Nat} {characters : List Char} {word : Word}
    (spells : Spells height characters word) (le : height ≤ higher) :
    Spells higher characters word :=
  fun top rest high => spells top rest (Nat.le_trans le high)

theorem plain {text : List Char} (plain : ∀ c ∈ text, Readers.isPlain c = true) :
    Spells (text.length + 1) text (text.map fun c => .text (String.singleton c) false) := by
  induction text with
  | nil => exact nil
  | cons c text ih =>
      rw [List.forall_mem_cons] at plain
      exact cons (Readers.contains_wordEnds_of_isPlain plain.1)
        (fun _ _ _ => Readers.reads_piece_plain plain.1) (ih plain.2)

theorem apostrophes {height : Nat} {body behind : List Char} {more : Word}
    (inside : Builtin.apostrophe ∉ body) (further : Spells height behind more) :
    Spells (height + 1) (Builtin.apostrophe :: (body ++ [Builtin.apostrophe]) ++ behind)
      (.quotes :: .text (String.ofList body) true :: more) :=
  cons (by decide) (fun _ _ _ => Readers.reads_piece_apostrophe inside) further

theorem quote {height : Nat} {marks behind : List Char} {more : Word}
    (same : ∀ c ∈ marks, c = Builtin.apostrophe) (high : marks.length < height)
    (further : Spells height behind more) :
    Spells (height + 1) ('"' :: (marks ++ ['"']) ++ behind)
      (.quotes :: marks.map (fun c => .text (String.singleton c) true) ++ more) := by
  have plain : ∀ c ∈ marks, Readers.isPlainInQuotes c = true := by
    intro c member
    rw [same c member]
    decide
  refine cons (by decide) (fun higher rest enough => ?_) further
  exact Readers.reads_piece_quote plain (Nat.lt_of_lt_of_le high enough)

end Spells

theorem spells_quotedWithin {steps : Nat} {text : List Char} (enough : text.length < steps) :
    ∃ word, Tells word text ∧
      Spells (2 * text.length + 3) (Builtin.quotedWithin steps text) (.quotes :: word) := by
  induction steps generalizing text with
  | zero => contradiction
  | succ steps ih =>
      rcases exists_cut text with ⟨plain, marks, others, cut⟩
      -- What is left is shorter by the apostrophes, and so it can be read on the rungs below them.
      have further : ∃ word, Tells word others ∧ Spells (2 * others.length + 3)
          (if others.isEmpty then [] else Builtin.quotedWithin steps others) word := by
        cases others with
        | nil => exact ⟨[], .nil, Spells.nil.mono (by decide)⟩
        | cons c others =>
            have shorter := cut.length_lt (List.cons_ne_nil c others)
            rcases ih (Nat.lt_of_lt_of_le shorter (Nat.le_of_lt_succ enough)) with
              ⟨word, tells, spells⟩
            exact ⟨_, .quotes tells, spells⟩
      rw [cut.quotedWithin_eq]
      rcases cut with ⟨rfl, inside, same, alone, -⟩
      simp only [List.length_append]
      have behind : ∃ word, Tells word (marks ++ others) ∧
          Spells (2 * (marks.length + others.length) + 2)
            ((if marks.isEmpty then [] else '"' :: (marks ++ ['"'])) ++
              if others.isEmpty then [] else Builtin.quotedWithin steps others) word := by
        cases marks with
        | nil =>
            rw [alone rfl]
            exact ⟨[], .nil, Spells.nil.mono (by decide)⟩
        | cons mark marks =>
            rcases further with ⟨word, tells, spells⟩
            rw [List.length_cons]
            have below : 2 * others.length + 3 ≤ 2 * (marks.length + 1 + others.length) + 1 := by
              omega
            have high : (mark :: marks).length < 2 * (marks.length + 1 + others.length) + 1 := by
              rw [List.length_cons]
              omega
            exact ⟨_, (Tells.singletons (mark :: marks)).quotes.append tells,
              (spells.mono below).quote same high⟩
      rcases behind with ⟨word, tells, spells⟩
      have front := Tells.quoted (String.ofList plain) tells
      rw [String.toList_ofList] at front
      exact ⟨_, front, (spells.apostrophes inside).mono (by omega)⟩

theorem mem_quotedWithin {steps : Nat} {text : List Char} {c : Char}
    (member : c ∈ Builtin.quotedWithin steps text) :
    c ∈ text ∨ c = Builtin.apostrophe ∨ c = '"' := by
  induction steps generalizing text with
  | zero => contradiction
  | succ steps ih =>
      rcases exists_cut text with ⟨plain, marks, others, cut⟩
      have behind : c ∈ (if others.isEmpty then [] else Builtin.quotedWithin steps others) →
          c ∈ others ∨ c = Builtin.apostrophe ∨ c = '"' := by
        split
        · exact fun member => absurd member List.not_mem_nil
        · exact ih
      have between : c ∈ (if marks.isEmpty then [] else '"' :: (marks ++ ['"'])) →
          c ∈ marks ∨ c = '"' := by
        split <;> simp
        tauto
      rw [cut.quotedWithin_eq] at member
      rw [cut.whole]
      simp only [List.mem_append, List.mem_cons, List.not_mem_nil, or_false] at member ⊢
      tauto

theorem length_le_quotedWithin {steps : Nat} {text : List Char} (enough : text.length < steps) :
    text.length ≤ (Builtin.quotedWithin steps text).length := by
  induction steps generalizing text with
  | zero => contradiction
  | succ steps ih =>
      rcases exists_cut text with ⟨plain, marks, others, cut⟩
      have further : others.length ≤
          (if others.isEmpty then [] else Builtin.quotedWithin steps others).length := by
        cases others with
        | nil => exact Nat.zero_le _
        | cons c others =>
            have shorter := cut.length_lt (List.cons_ne_nil c others)
            exact ih (Nat.lt_of_lt_of_le shorter (Nat.le_of_lt_succ enough))
      have between : marks.length ≤
          (if marks.isEmpty then [] else '"' :: (marks ++ ['"'])).length := by
        cases marks with
        | nil => exact Nat.zero_le _
        | cons mark marks => simp
      rw [cut.quotedWithin_eq, cut.whole]
      simp only [List.length_append, List.length_cons]
      omega

/-- A text as it is listed in quotes spells a word that tells the text. -/
theorem spells_quoted (text : String) :
    ∃ word, Tells word text.toList ∧
      Spells (2 * text.length + 3) (Builtin.quoted text).toList (.quotes :: word) := by
  rcases spells_quotedWithin (Nat.lt_succ_self text.toList.length) with ⟨word, tells, spells⟩
  rw [String.length_toList] at spells
  refine ⟨word, tells, ?_⟩
  rw [Builtin.quoted, String.toList_ofList]
  exact spells

end EntryTree.Command
