import EntryTree.Proofs.Command.Words

/-!
# Scripts of one command

A line of words with spaces between them is read as the simple command of the words. The reader
puts the first word back several times on its way down from lists of commands to the command, and
takes the others one by one; where the line ends, the end is put back on every step of the way up.
-/

namespace EntryTree.Command

namespace Readers

variable {readers : Readers} {characters rest : List Char} {word : Word} {c : Char}

/-- The characters that a word may begin with, behind which no descriptor of a redirection is
looked for. -/
def startsWord (c : Char) : Bool :=
  !([' ', '\t', '\\', '#', '\n', '&', '|', ';', '(', ')', '<', '>'].contains c || c.isDigit)

theorem ne_of_startsWord {other : Char} (starts : startsWord c = true)
    (odd : startsWord other = false) : c ≠ other := by
  rintro rfl
  rw [starts] at odd
  contradiction

theorem reads_skipBlanks (starts : startsWord c = true) (steps : Nat) :
    Reads (skipBlanks (steps + 1)) [] (c :: rest) () := by
  have space := ne_of_startsWord starts (by decide +kernel : startsWord ' ' = false)
  have tab := ne_of_startsWord starts (by decide +kernel : startsWord '\t' = false)
  have backslash := ne_of_startsWord starts (by decide +kernel : startsWord '\\' = false)
  have comment := ne_of_startsWord starts (by decide +kernel : startsWord '#' = false)
  refine Reads.get_bind fun source whole => ?_
  rw [whole]
  split
  · simp_all
  · simp_all
  · simp_all
  · simp_all
  · exact .pure () _

theorem reads_skipBlanks_space (starts : startsWord c = true) (steps : Nat) :
    Reads (skipBlanks (steps + 2)) [' '] (c :: rest) () := by
  refine Reads.get_bind fun source whole => ?_
  rw [whole]
  exact (reads_skip ' ' _).andThen (reads_skipBlanks starts steps)

/-- Where a word begins, also behind a space, it is the next lexeme. -/
theorem reads_freshLexeme {blank : List Char} (spaced : blank = [] ∨ blank = [' '])
    (starts : startsWord c = true)
    (reads : Reads (readers.pieces ⟨.word, false⟩) (c :: characters) rest word) :
    Reads readers.freshLexeme (blank ++ c :: characters) rest (.word word) := by
  have newline := ne_of_startsWord starts (by decide +kernel : startsWord '\n' = false)
  have ampersand := ne_of_startsWord starts (by decide +kernel : startsWord '&' = false)
  have bar := ne_of_startsWord starts (by decide +kernel : startsWord '|' = false)
  have semicolon := ne_of_startsWord starts (by decide +kernel : startsWord ';' = false)
  have opening := ne_of_startsWord starts (by decide +kernel : startsWord '(' = false)
  have closing := ne_of_startsWord starts (by decide +kernel : startsWord ')' = false)
  have input := ne_of_startsWord starts (by decide +kernel : startsWord '<' = false)
  have output := ne_of_startsWord starts (by decide +kernel : startsWord '>' = false)
  have digit : c.isDigit = false := by
    simp only [startsWord, Bool.not_eq_true', Bool.or_eq_false_iff] at starts
    exact starts.2
  have lexeme : Reads (do return Lexeme.word (← readers.pieces ⟨.word, false⟩)) (c :: characters)
      rest (.word word) := reads.andThen (.pure _ rest)
  refine Reads.get_bind fun source same => ?_
  have blanks : Reads (skipBlanks (source.characters.length + 1)) blank (c :: characters ++ rest)
      () := by
    rw [same]
    rcases spaced with rfl | rfl
    · exact reads_skipBlanks starts _
    · exact reads_skipBlanks_space starts _
  refine blanks.bind (Reads.get_bind fun source same => ?_)
  rw [same]
  split
  all_goals simp_all

theorem reads_freshLexeme_ending : Reads readers.freshLexeme [] [] .ending := by
  have blanks (steps : Nat) : Reads (skipBlanks (steps + 1)) [] [] () := by
    refine Reads.get_bind fun source same => ?_
    rw [same]
    exact .pure () []
  refine Reads.get_bind fun source _ => (blanks _).andThen (Reads.get_bind fun source same => ?_)
  rw [same]
  exact .pure Lexeme.ending []

end Readers

/-- What a reader comes to from a source, which text it leaves and which lexeme is put back then. -/
def Comes {α : Type} (reading : Reading α) (source : Source) (value : α) (rest : List Char)
    (back : Option Lexeme) : Prop :=
  ∃ after, reading.run source = .ok (value, after) ∧ after.characters = rest ∧ after.back = back

namespace Comes

variable {α β : Type} {reading : Reading α} {source : Source} {value : α} {rest : List Char}
  {back : Option Lexeme}

theorem pure (characters : source.characters = rest) (lexeme : source.back = back) :
    Comes (Pure.pure value) source value rest back :=
  ⟨source, rfl, characters, lexeme⟩

theorem bind_run {next : α → Reading β} {result : β} {left : List Char} {last : Option Lexeme}
    {between : Source} (ran : reading.run source = .ok (value, between))
    (second : Comes (next value) between result left last) :
    Comes (reading >>= next) source result left last := by
  rcases second with ⟨after, ranOn, left, last⟩
  refine ⟨after, ?_, left, last⟩
  rw [StateT.run_bind, ran]
  exact ranOn

theorem bind {next : α → Reading β} {result : β} {left : List Char} {last : Option Lexeme}
    (first : Comes reading source value rest back)
    (second : ∀ after : Source, after.characters = rest → after.back = back →
      Comes (next value) after result left last) :
    Comes (reading >>= next) source result left last := by
  rcases first with ⟨between, ran, characters, lexeme⟩
  exact bind_run ran (second between characters lexeme)

/-- A reader that begins by looking at the source. -/
theorem get_bind {next : Source → Reading β} {result : β} {left : List Char} {last : Option Lexeme}
    (further : Comes (next source) source result left last) :
    Comes (get >>= next) source result left last :=
  further

theorem putBack {lexeme : Lexeme} (characters : source.characters = rest) :
    Comes (Readers.putBack lexeme) source () rest (some lexeme) :=
  ⟨{ source with back := some lexeme }, rfl, characters, rfl⟩

end Comes

namespace Readers

variable {readers : Readers} {source : Source} {rest : List Char} {lexeme : Lexeme}

theorem comes_anyLexeme_back (characters : source.characters = rest)
    (back : source.back = some lexeme) : Comes readers.anyLexeme source lexeme rest none := by
  refine ⟨{ source with back := none }, ?_, characters, rfl⟩
  rw [anyLexeme, StateT.run_bind, StateT.run_get, pure_bind]
  dsimp only
  rw [back]
  rfl

theorem comes_anyLexeme_fresh {front : List Char}
    (reads : Reads readers.freshLexeme front rest lexeme)
    (whole : source.characters = front ++ rest) (back : source.back = none) :
    Comes readers.anyLexeme source lexeme rest none := by
  rcases reads source whole with ⟨after, ran, characters, same⟩
  refine ⟨after, ?_, characters, same.trans back⟩
  rw [anyLexeme, StateT.run_bind, StateT.run_get, pure_bind]
  dsimp only
  rw [back]
  exact ran

end Readers

/-! ### Words with spaces between them -/

/-- A text that spells a word from some height on, where a word may begin. -/
structure Written (height : Nat) (characters : List Char) (word : Word) : Prop where
  spells : Spells height characters word
  starts : ∃ c more, characters = c :: more ∧ Readers.startsWord c = true

/-- Texts, every one of them behind a space. -/
def spaced (texts : List (List Char)) : List Char :=
  texts.flatMap fun text => ' ' :: text

theorem ends_spaced (texts : List (List Char)) :
    ∀ c ∈ (spaced texts).head?, wordEnds.contains c = true := by
  cases texts with
  | nil => simp [spaced]
  | cons text texts =>
      rintro c ⟨⟩
      decide

namespace Readers

variable {height higher : Nat} {source : Source} {line : Nat}

/-- The next lexeme is the next of the words. -/
theorem comes_anyLexeme_word {blank characters : List Char} {word : Word} {texts : List (List Char)}
    (high : height ≤ higher) (separated : blank = [] ∨ blank = [' '])
    (written : Written height characters word)
    (whole : source.characters = blank ++ characters ++ spaced texts) (back : source.back = none) :
    Comes (ofHeight higher).anyLexeme source (.word word) (spaced texts) none := by
  rcases written.starts with ⟨c, more, rfl, starts⟩
  have reads := written.spells higher (spaced texts) high (ends_spaced texts)
  exact comes_anyLexeme_fresh (reads_freshLexeme separated starts reads) whole back

/-- The words behind the first one are taken one by one. -/
theorem comes_simpleRest {entries : List (List Char × Word)} (high : height ≤ higher)
    (written : ∀ entry ∈ entries, Written height entry.1 entry.2) {steps : Nat}
    (enough : entries.length < steps) {draft : Draft} (begun : draft.words ≠ [])
    (whole : source.characters = spaced (entries.map Prod.fst)) (back : source.back = none) :
    Comes ((ofHeight higher).simpleRest line draft steps) source
      (.simple line draft.assignments (draft.words ++ entries.map Prod.snd) draft.redirections) []
      (some .ending) := by
  induction entries generalizing source draft steps with
  | nil =>
      cases steps with
      | zero => contradiction
      | succ steps =>
          rw [List.map_nil, List.append_nil, simpleRest]
          have ending : Comes (ofHeight higher).anyLexeme source .ending [] none :=
            comes_anyLexeme_fresh reads_freshLexeme_ending whole back
          refine ending.bind fun after characters _ => ?_
          exact (Comes.putBack characters).bind fun last left lexeme => .pure left lexeme
  | cons entry entries ih =>
      rw [List.forall_mem_cons] at written
      cases steps with
      | zero => contradiction
      | succ steps =>
          have next := comes_anyLexeme_word high (.inr rfl) written.1
            (by simpa [spaced] using whole) back
          have filled : draft.words.isEmpty = false := by simpa using begun
          rw [simpleRest]
          refine next.bind fun after characters lexeme => ?_
          simp only [filled, Bool.false_eq_true, if_false]
          let longer : Draft := { draft with words := draft.words ++ [entry.2] }
          have begunLonger : longer.words ≠ [] := by simp [longer]
          have further := ih written.2 (Nat.lt_of_succ_lt_succ enough) begunLonger characters lexeme
          simpa [longer] using further

theorem length_le_spaced (texts : List (List Char)) : texts.length ≤ (spaced texts).length := by
  induction texts with
  | nil => exact Nat.le_refl 0
  | cons text texts ih =>
      simp only [spaced, List.flatMap_cons, List.length_append, List.length_cons] at ih ⊢
      omega

theorem comes_leading {readers : Readers} {lexeme : Lexeme} {rest : List Char}
    {back : Option Lexeme} (any : Comes readers.anyLexeme source lexeme rest back) :
    Comes (readers.leading false) source (promote lexeme) rest back :=
  any.bind fun _ characters same => .pure characters same

theorem comes_leading_ending {readers : Readers} (characters : source.characters = [])
    (back : source.back = some .ending) : Comes (readers.leading false) source .ending [] none :=
  comes_leading (comes_anyLexeme_back characters back)

/-- A word that is the name of a command: no keyword, and no assignment. -/
structure IsName (word : Word) : Prop where
  promoted : promote (.word word) = .word word
  unassigned : assignment? word = none

theorem comes_leading_name {readers : Readers} {name : Word} {rest : List Char}
    (named : IsName name) (characters : source.characters = rest)
    (back : source.back = some (.word name)) :
    Comes (readers.leading false) source (.word name) rest none := by
  have next : Comes (readers.leading false) source (promote (.word name)) rest none :=
    comes_leading (comes_anyLexeme_back characters back)
  rwa [named.promoted] at next

/-- The word of plain characters. -/
def plainWord (text : List Char) : Word :=
  text.map fun c => .text (String.singleton c) false

theorem plain?_plainWord (text : List Char) :
    plain? (plainWord text) = some (String.ofList text, false) := by
  induction text with
  | nil => rfl
  | cons c text ih =>
      rw [plainWord] at ih ⊢
      rw [List.map_cons, plain?, ih, Option.map_some, String.ofList_cons]
      rfl

theorem split_plainWord {text : List Char} (unassigned : '=' ∉ text) (name : String) :
    assignment?.split name (plainWord text) = none := by
  induction text generalizing name with
  | nil => rfl
  | cons c text ih =>
      rw [List.mem_cons, not_or] at unassigned
      have other : String.singleton c ≠ "=" := by
        intro same
        have characters := congrArg String.toList same
        simp only [String.toList_singleton] at characters
        exact unassigned.1 (List.cons.inj characters).1.symm
      have step : assignment?.split name (plainWord (c :: text)) =
          if String.singleton c = "=" then if isName name then some (name, plainWord text) else none
          else assignment?.split (name ++ String.singleton c) (plainWord text) := rfl
      rw [step, if_neg other]
      exact ih unassigned.2 _

theorem isName_plainWord {text : List Char} (free : keywords.contains (String.ofList text) = false)
    (unassigned : '=' ∉ text) : IsName (plainWord text) where
  promoted := by
    rw [promote, plain?_plainWord]
    simp only [free, Bool.false_eq_true, if_false]
  unassigned := split_plainWord unassigned ""

section Command

variable {name : Word} {entries : List (List Char × Word)}

theorem comes_readCommand (named : IsName name) (high : height ≤ higher)
    (written : ∀ entry ∈ entries, Written height entry.1 entry.2)
    (whole : source.characters = spaced (entries.map Prod.fst))
    (back : source.back = some (.word name)) :
    ∃ line, Comes ((ofHeight higher).readCommand false) source
      (.simple line [] (name :: entries.map Prod.snd) []) [] (some .ending) := by
  rcases comes_leading_name named whole back with ⟨between, ran, characters, none⟩
  refine ⟨between.line, Comes.bind_run ran (Comes.get_bind ?_)⟩
  refine (Comes.putBack characters).bind fun ready whole back => Comes.get_bind ?_
  have enough : entries.length < ready.characters.length + 1 := by
    have longer := length_le_spaced (entries.map Prod.fst)
    rw [List.length_map, ← whole] at longer
    exact Nat.lt_succ_of_le longer
  rw [simpleRest]
  refine (comes_anyLexeme_back whole back).bind fun after characters back => ?_
  simp only [List.isEmpty_nil, if_true, named.unassigned]
  let draft : Draft := ⟨[], [name], []⟩
  have begun : draft.words ≠ [] := List.cons_ne_nil name []
  exact comes_simpleRest high written enough begun characters back

/-- There are no further stages at the end of a text. -/
theorem comes_stages {readers : Readers} (steps : Nat) (characters : source.characters = [])
    (back : source.back = some .ending) :
    Comes (readers.stages (steps + 1)) source [] [] (some .ending) := by
  rw [stages]
  refine (comes_leading_ending characters back).bind fun source characters _ => ?_
  exact (Comes.putBack characters).bind fun source characters back => .pure characters back

theorem comes_pipeline (named : IsName name) (high : height ≤ higher)
    (written : ∀ entry ∈ entries, Written height entry.1 entry.2) (steps : Nat)
    (whole : source.characters = spaced (entries.map Prod.fst))
    (back : source.back = some (.word name)) :
    ∃ line, Comes ((ofHeight (higher + 1)).pipeline false (steps + 1)) source
      (.simple line [] (name :: entries.map Prod.snd) []) [] (some .ending) := by
  have first : Comes ((ofHeight (higher + 1)).leading false) source (.word name)
      (spaced (entries.map Prod.fst)) none := comes_leading_name named whole back
  rcases first with ⟨between, ran, characters, _⟩
  have again : Comes (putBack (.word name)) between () (spaced (entries.map Prod.fst))
      (some (.word name)) := .putBack characters
  rcases again with ⟨ready, put, whole, back⟩
  rcases comes_readCommand named high written whole back with ⟨line, command⟩
  refine ⟨line, ?_⟩
  rw [pipeline]
  refine Comes.bind_run ran (Comes.bind_run put ?_)
  refine Comes.bind command fun source characters back => Comes.get_bind ?_
  refine (comes_stages _ characters back).bind fun source characters back => ?_
  exact .pure characters back

theorem comes_joined {readers : Readers} (first : Script) (steps : Nat)
    (characters : source.characters = []) (back : source.back = some .ending) :
    Comes (readers.joined first (steps + 1)) source first [] (some .ending) := by
  rw [joined]
  refine (comes_leading_ending characters back).bind fun source characters _ => ?_
  exact (Comes.putBack characters).bind fun source characters back => .pure characters back

theorem comes_listRest_ending {readers : Readers} (first : Script) (empty : Bool) (steps : Nat)
    (characters : source.characters = []) (back : source.back = some .ending) :
    Comes (readers.listRest .line first empty (steps + 1)) source first [] (some .ending) := by
  rw [listRest]
  refine (comes_leading_ending characters back).bind fun source characters _ => ?_
  exact (Comes.putBack characters).bind fun source characters back => .pure characters back

/-- A line of words is one simple command. -/
theorem comes_readList (high : height ≤ higher) (named : IsName name) {characters : List Char}
    (first : Written height characters name)
    (written : ∀ entry ∈ entries, Written height entry.1 entry.2)
    (whole : source.characters = characters ++ spaced (entries.map Prod.fst))
    (back : source.back = none) :
    ∃ line, Comes ((ofHeight (higher + 1)).readList .line) source
      (.simple line [] (name :: entries.map Prod.snd) []) [] (some .ending) := by
  have word : Comes ((ofHeight (higher + 1)).leading false) source (.word name)
      (spaced (entries.map Prod.fst)) none := by
    have next := comes_leading (comes_anyLexeme_word (Nat.le_succ_of_le high) (.inl rfl) first whole
      back)
    rwa [named.promoted] at next
  rcases word with ⟨between, ran, characters, _⟩
  have again : Comes (putBack (.word name)) between () (spaced (entries.map Prod.fst))
      (some (.word name)) := .putBack characters
  rcases again with ⟨ready, put, whole, back⟩
  rcases comes_pipeline named high written (ready.characters.length + 1) whole back with
    ⟨line, command⟩
  refine ⟨line, ?_⟩
  rw [readList]
  refine Comes.get_bind ?_
  rw [listRest]
  refine Comes.bind_run ran (Comes.bind_run put ?_)
  refine Comes.get_bind (command.bind fun source characters back => Comes.get_bind ?_)
  refine (comes_joined _ _ characters back).bind fun source characters back => ?_
  refine (comes_leading_ending characters back).bind fun source characters _ => ?_
  refine (Comes.putBack characters).bind fun source characters back => ?_
  exact comes_listRest_ending _ _ _ characters back

end Command

end Readers

/-- A text of words is a script of one command, the simple command of the words. -/
theorem readScript_words {name : Word} {characters : List Char}
    {entries : List (List Char × Word)} {height : Nat} (named : Readers.IsName name)
    (first : Written height characters name)
    (written : ∀ entry ∈ entries, Written height entry.1 entry.2) {text : String}
    (whole : text.toList = characters ++ spaced (entries.map Prod.fst))
    (high : height ≤ 4 * text.length + 14) (start : Nat) :
    ∃ line, readScript text start =
      ([⟨.simple line [] (name :: entries.map Prod.snd) [], true⟩], none) := by
  have begin : (⟨text.toList, start, 0, none⟩ : Source).characters =
      characters ++ spaced (entries.map Prod.fst) := whole
  rcases Readers.comes_readList high named first written begin rfl with
    ⟨line, after, ran, _, back⟩
  refine ⟨line, ?_⟩
  have list : ((Readers.forText text.toList).list .line).run ⟨text.toList, start, 0, none⟩ =
      .ok (.simple line [] (name :: entries.map Prod.snd) [], after) := by
    rw [Readers.forText, String.length_toList]
    exact ran
  rw [readScript]
  simp only [readLines, list, back]

end EntryTree.Command
