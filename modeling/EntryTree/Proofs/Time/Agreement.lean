import EntryTree.Proofs.Time.Stamp

/-!
# Agreement of the notations of timestamps

Several notations are tried in turn, after the blanks around a timestamp and the name of a zone
behind it are dropped. The notations of one timestamp differ in what separates the date from the
time of day and in what stands behind that, and these two decide which attempts succeed. Every
attempt that succeeds has read the same fields and the same offset. So it does not matter that a
notation may be read by more than one attempt, nor that a date which does not exist makes the later
attempts follow.
-/

namespace EntryTree.Stamp

open Text Text.Scanner Instant

variable {stamp : Stamp} {c : Char} {rest : List Char}

/-! ## Reading the date and the time of day -/

/-- What is read behind a date and a separator. -/
def timeOfDay (year : Int) (month day : Nat) : Scanner WallTime := do
  let hour ← shortField
  char ':'
  let minute ← shortField
  char ':'
  let second ← shortField
  let nanos ← Scanner.fraction
  pure ⟨⟨year, month, day⟩, hour, minute, second, nanos⟩

theorem wallTime_text (stamp : Stamp) (separator : Scanner Unit) (c : Char) (rest : List Char) :
    Instant.wallTime (pure ()) separator (stamp.text c rest) =
      (separator >>= fun _ => timeOfDay stamp.year stamp.month stamp.day)
        (c :: (stamp.clockText ++ rest)) := by
  simp only [text, dateText, List.append_assoc, List.cons_append, Instant.wallTime]
  rw [bind_of_read _ (yearField_padded stamp.short.year _), bind_of_read _ (pure_apply _ _),
    bind_of_read _ (char_cons _ _), bind_of_read _ (shortField_padded stamp.short.month _),
    bind_of_read _ (pure_apply _ _), bind_of_read _ (char_cons _ _),
    bind_of_read _ (shortField_padded stamp.short.day _)]
  rfl

theorem timeOfDay_clockText (stops : Stops rest) :
    timeOfDay stamp.year stamp.month stamp.day (stamp.clockText ++ rest) =
      some (stamp.wallTime, rest) := by
  simp only [clockText, List.append_assoc, List.cons_append, timeOfDay]
  rw [bind_of_read _ (shortField_padded stamp.short.hour _), bind_of_read _ (char_cons _ _),
    bind_of_read _ (shortField_padded stamp.short.minute _), bind_of_read _ (char_cons _ _),
    bind_of_read _ (shortField_padded stamp.short.second _),
    bind_of_read _ (fraction_pointed stamp.fraction_digits stops)]
  rfl

theorem blank_space : Blank [' '] := by
  simp [Blank, isBlank]

theorem wallTime_blanks (stops : Stops rest) :
    Instant.wallTime (pure ()) blanks (stamp.text ' ' rest) = some (stamp.wallTime, rest) := by
  have skipped : blanks (' ' :: (stamp.clockText ++ rest)) =
      some ((), stamp.clockText ++ rest) := by
    rw [← List.singleton_append, blanks_append blank_space, clockText, List.append_assoc]
    exact blanks_padded (by omega) stamp.short.hour _
  rw [wallTime_text, bind_of_read _ skipped, timeOfDay_clockText stops]

theorem wallTime_letter (stops : Stops rest) :
    Instant.wallTime (pure ()) (char 'T') (stamp.text 'T' rest) = some (stamp.wallTime, rest) := by
  rw [wallTime_text, bind_of_read _ (char_cons _ _), timeOfDay_clockText stops]

theorem wallTime_blanks_letter :
    Instant.wallTime (pure ()) blanks (stamp.text 'T' rest) = none := by
  have stays : blanks ('T' :: (stamp.clockText ++ rest)) =
      some ((), 'T' :: (stamp.clockText ++ rest)) := rfl
  have fails : shortField ('T' :: (stamp.clockText ++ rest)) = none := by
    rw [shortField, bind_of_read _ stays]
    apply number_of_not_digit (by omega)
    rintro _ ⟨⟩
    rfl
  rw [wallTime_text, bind_of_read _ stays, timeOfDay, bind_of_none _ fails]

theorem wallTime_letter_blank :
    Instant.wallTime (pure ()) (char 'T') (stamp.text ' ' rest) = none := by
  rw [wallTime_text, bind_of_none]
  apply char_of_ne
  rintro _ ⟨⟩
  decide

/-- The one separator that is written is read, and the other is not. -/
theorem findSome?_separators {γ : Type} (stamp : Stamp) (separator : c = ' ' ∨ c = 'T')
    (stops : Stops rest) (use : WallTime × List Char → Option γ) :
    separators.findSome? (fun separator =>
      (Instant.wallTime (pure ()) separator (stamp.text c rest)).bind use) =
        use (stamp.wallTime, rest) := by
  rcases separator with rfl | rfl
  · simp only [separators, List.findSome?, wallTime_blanks stops, wallTime_letter_blank,
      Option.bind_some, Option.bind_none]
    cases use (stamp.wallTime, rest) <;> rfl
  · simp only [separators, List.findSome?, wallTime_letter stops, wallTime_blanks_letter,
      Option.bind_some, Option.bind_none]
    cases use (stamp.wallTime, rest) <;> rfl

theorem rfc3339_text (separator : c = ' ' ∨ c = 'T') (stops : Stops rest) :
    rfc3339 (stamp.text c rest) =
      (rfc3339Offset rest).map fun answer => ((stamp.wallTime, answer.1), answer.2) := by
  have between : (c == 'T' || c == 't' || c == ' ') = true := by
    rcases separator with rfl | rfl <;> rfl
  simp only [text, dateText, clockText, List.append_assoc, List.cons_append, rfc3339]
  rw [bind_of_read _ (number_padded (by omega) (Nat.le_refl 4) stamp.short.year _),
    bind_of_read _ (char_cons _ _),
    bind_of_read _ (number_padded_two stamp.short.month _),
    bind_of_read _ (char_cons _ _),
    bind_of_read _ (number_padded_two stamp.short.day _),
    bind_of_read _ (charWhere_cons between),
    bind_of_read _ (number_padded_two stamp.short.hour _),
    bind_of_read _ (char_cons _ _),
    bind_of_read _ (number_padded_two stamp.short.minute _),
    bind_of_read _ (char_cons _ _),
    bind_of_read _ (number_padded_two stamp.short.second _),
    bind_of_read _ (fraction_pointed stamp.fraction_digits stops), bind_apply]
  cases rfc3339Offset rest <;> rfl

/-! ## Reading the ending -/

theorem readAll?_eq {α : Type} (scanner : Scanner α) (chars : List Char) :
    readAll? scanner chars =
      (scanner chars).bind fun answer => if answer.2 = [] then some answer.1 else none := by
  unfold readAll?
  rcases scanner chars with _ | ⟨value, rest⟩
  · rfl
  · cases rest <;> rfl

theorem readAll?_pair {α β : Type} (scanner : Scanner α) (next : Scanner β) (chars : List Char) :
    readAll? (do
      let first ← scanner
      let second ← next
      pure (first, second)) chars =
        (scanner chars).bind fun answer => (readAll? next answer.2).map fun second =>
          (answer.1, second) := by
  simp only [readAll?_eq, bind_apply, pure_apply]
  rcases scanner chars with _ | ⟨first, rest⟩
  · rfl
  · simp only [Option.bind_some]
    rcases next rest with _ | ⟨second, left⟩
    · rfl
    · cases left <;> rfl

theorem ofRfc3339?_text (separator : c = ' ' ∨ c = 'T') (stops : Stops rest) :
    ofRfc3339? (stamp.text c rest) =
      (readAll? rfc3339Offset rest).bind stamp.wallTime.instant? := by
  simp only [ofRfc3339?, readAll?_eq, rfc3339_text separator stops]
  rcases rfc3339Offset rest with _ | ⟨offset, left⟩
  · rfl
  · cases left <;> rfl

theorem ofOffset?_eq (chars : List Char) :
    ofOffset? chars = separators.findSome? fun separator =>
      (Instant.wallTime (pure ()) separator chars).bind fun answer =>
        (readAll? plainOffset answer.2).bind answer.1.instant? := by
  unfold ofOffset?
  apply congrArg (List.findSome? · separators)
  funext separator
  rw [readAll?_pair]
  cases Instant.wallTime (pure ()) separator chars with
  | none => rfl
  | some answer =>
      simp only [Option.bind_some]
      cases readAll? plainOffset answer.2 <;> rfl

theorem ofOffset?_text (separator : c = ' ' ∨ c = 'T') (stops : Stops rest) :
    ofOffset? (stamp.text c rest) =
      (readAll? plainOffset rest).bind stamp.wallTime.instant? := by
  rw [ofOffset?_eq, findSome?_separators stamp separator stops]

theorem dropSuffix?_eq_some_iff {suffix chars front : List Char} :
    dropSuffix? suffix chars = some front ↔ chars = front ++ suffix := by
  rw [dropSuffix?, Option.map_eq_some_iff]
  simp only [List.isPrefixOf?_eq_some_iff_append_eq]
  constructor
  · rintro ⟨reversed, same, rfl⟩
    rw [← List.reverse_inj, ← same]
    simp
  · rintro rfl
    exact ⟨front.reverse, by simp, by simp⟩

theorem ofUniversal?_append (front : List Char) :
    ofUniversal? (front ++ universalEnding) = separators.findSome? fun separator =>
      (Instant.wallTime (pure ()) separator front).bind fun answer =>
        if answer.2 = [] then answer.1.instant? 0 else none := by
  have dropped : dropSuffix? " UTC".toList (front ++ universalEnding) = some front :=
    dropSuffix?_eq_some_iff.mpr rfl
  rw [ofUniversal?, dropped, Option.bind_eq_bind, Option.bind_some]
  apply congrArg (List.findSome? · separators)
  funext separator
  rw [readAll?_eq]
  rcases Instant.wallTime (pure ()) separator front with _ | ⟨time, left⟩
  · rfl
  · cases left <;> rfl

theorem ofUniversal?_text (separator : c = ' ' ∨ c = 'T') (stops : Stops rest) :
    ofUniversal? (stamp.text c rest ++ universalEnding) =
      if rest = [] then stamp.wallTime.instant? 0 else none := by
  rw [ofUniversal?_append, findSome?_separators stamp separator stops]

theorem ofUniversal?_eq_none {chars : List Char} (other : ¬universalEnding <:+ chars) :
    ofUniversal? chars = none := by
  have kept : dropSuffix? " UTC".toList chars = none := by
    rw [Option.eq_none_iff_forall_ne_some]
    intro front dropped
    exact other ⟨front, (dropSuffix?_eq_some_iff.mp dropped).symm⟩
  rw [ofUniversal?, kept]
  rfl

/-! ### The last word -/

theorem dropZoneWord_of_free {chars : List Char} (free : ' ' ∉ chars) :
    dropZoneWord chars = chars := by
  have nothing : chars.reverse.dropWhile (· != ' ') = [] :=
    List.dropWhile_eq_nil_iff.mpr (bne_of_not_mem (mt List.mem_reverse.mp free))
  simp only [dropZoneWord, nothing]

theorem dropZoneWord_append {word : List Char} (free : ' ' ∉ word) (front : List Char) :
    dropZoneWord (front ++ ' ' :: word) =
      if word.all Char.isAlpha then front else front ++ ' ' :: word := by
  have before := bne_of_not_mem (mt List.mem_reverse.mp free)
  have reversed : (front ++ ' ' :: word).reverse = word.reverse ++ ' ' :: front.reverse := by simp
  have stops : (' ' != ' ') = false := rfl
  simp only [dropZoneWord, reversed, List.takeWhile_append_of_pos before,
    List.dropWhile_append_of_pos before, List.takeWhile_cons, List.dropWhile_cons, stops,
    Bool.false_eq_true, if_false, List.append_nil, List.all_reverse, List.reverse_reverse]

theorem eq_of_suffix {word front : List Char} (free : ' ' ∉ word)
    (suffix : universalEnding <:+ front ++ ' ' :: word) : word = ['U', 'T', 'C'] := by
  rcases suffix with ⟨others, same⟩
  have lastWord := congrArg (fun chars : List Char => chars.reverse.takeWhile (· != ' ')) same
  have before := bne_of_not_mem (mt List.mem_reverse.mp free)
  have reversed : (front ++ ' ' :: word).reverse = word.reverse ++ ' ' :: front.reverse := by simp
  simp only [reversed, List.takeWhile_append_of_pos before] at lastWord
  simpa using lastWord.symm

/-! ### Offsets -/

theorem sign_mark (behind : Bool) (rest : List Char) :
    Scanner.sign ((if behind then '-' else '+') :: rest) = some (behind, rest) := by
  cases behind <;> rfl

theorem number_offsetMinutes (stamp : Stamp) :
    number 2 2 (padded 2 stamp.offsetMinutes).toList = some (stamp.offsetMinutes, []) := by
  have read := number_padded_two stamp.short.offsetMinutes []
  rwa [List.append_nil] at read

theorem head_offsetMinutes (stamp : Stamp) :
    ∃ c others, (padded 2 stamp.offsetMinutes).toList = c :: others ∧ c.isDigit = true := by
  have starts := head_padded (by omega : 0 < 2) stamp.short.offsetMinutes []
  rwa [List.append_nil] at starts

/-- A sign is no letter for universal time. -/
theorem rfc3339Offset_offsetText (between : List Char) :
    rfc3339Offset (stamp.offsetText between) = rfc3339Offset.scan (stamp.offsetText between) := by
  unfold offsetText
  cases stamp.behind <;> rfl

theorem rfc3339Offset_colon : rfc3339Offset (stamp.offsetText [':']) = some (stamp.offset, []) := by
  rw [rfc3339Offset_offsetText, offsetText, rfc3339Offset.scan, bind_of_read _ (sign_mark _ _),
    bind_of_read _ (number_padded_two stamp.short.offsetHours _), List.cons_append,
    bind_of_read _ (char_cons _ _), List.nil_append, bind_of_read _ stamp.number_offsetMinutes,
    if_pos ⟨stamp.offsetHours_le, stamp.offsetMinutes_le⟩]
  rfl

theorem rfc3339Offset_plain : rfc3339Offset (stamp.offsetText []) = none := by
  rw [rfc3339Offset_offsetText, offsetText, rfc3339Offset.scan, bind_of_read _ (sign_mark _ _),
    bind_of_read _ (number_padded_two stamp.short.offsetHours _), bind_of_none]
  rcases stamp.head_offsetMinutes with ⟨c, others, written, digit⟩
  apply char_of_ne
  rw [List.nil_append, written]
  rintro _ ⟨⟩ rfl
  exact absurd digit (by decide)

theorem plainOffset_offsetText {front between : List Char} (blank : Blank front)
    (colons : ∀ c ∈ between, c = ':') :
    plainOffset (front ++ stamp.offsetText between) = some (stamp.offset, []) := by
  have visible : blanks (stamp.offsetText between) = some ((), stamp.offsetText between) := by
    apply blanks_of_visible
    unfold offsetText
    rintro _ ⟨⟩
    cases stamp.behind <;> decide
  have skipped : skipWhile (fun c => c == ':' || isBlank c)
      (between ++ (padded 2 stamp.offsetMinutes).toList) =
        some ((), (padded 2 stamp.offsetMinutes).toList) := by
    have passes : ∀ c ∈ between, (c == ':' || isBlank c) = true := by
      intro c member
      rw [colons c member]
      rfl
    rcases stamp.head_offsetMinutes with ⟨c, others, written, digit⟩
    have stays : (c == ':' || isBlank c) = false := by
      rw [isBlank_of_isDigit digit, Bool.or_false, beq_eq_false_iff_ne]
      rintro rfl
      exact absurd digit (by decide)
    rw [skipWhile, List.dropWhile_append_of_pos passes, written, List.dropWhile_cons, stays]
    rfl
  rw [← blanks_append blank (stamp.offsetText between)] at visible
  rw [plainOffset, bind_of_read _ visible, offsetText, bind_of_read _ (sign_mark _ _),
    bind_of_read _ (number_padded_two stamp.short.offsetHours _),
    bind_of_read _ skipped, bind_of_read _ stamp.number_offsetMinutes,
    if_pos ⟨stamp.offsetHours_le, stamp.offsetMinutes_le⟩]
  rfl

/-! ## Agreement -/

theorem space_not_mem_padded {width value : Nat} : ' ' ∉ (padded width value).toList := by
  intro member
  exact absurd (isDigit_of_mem_padded member) (by decide)

theorem space_not_mem_offsetText {between : List Char} (free : ' ' ∉ between) :
    ' ' ∉ stamp.offsetText between := by
  have sign : ' ' ≠ if stamp.behind then '-' else '+' := by
    cases stamp.behind <;> decide
  simp [offsetText, space_not_mem_padded, free, sign]

theorem space_not_mem_text (stamp : Stamp) (free : ' ' ∉ rest) : ' ' ∉ stamp.text 'T' rest := by
  have fraction : ' ' ∉ pointed stamp.fraction := by
    intro member
    unfold pointed at member
    split at member
    · contradiction
    · rcases List.mem_cons.mp member with same | digit
      · exact absurd same (by decide)
      · exact absurd (stamp.fraction_digits ' ' digit) (by decide)
  simp [text, dateText, clockText, space_not_mem_padded, free, fraction]

/-- What stands behind the time of day ends a fraction. -/
theorem Writes.stops (writes : stamp.Writes c rest) : Stops rest := by
  have sign : ∀ between, Stops (stamp.offsetText between) := by
    unfold offsetText
    rintro between _ ⟨⟩
    cases stamp.behind <;> decide
  cases writes with
  | internet => exact sign [':']
  | joined => exact sign []
  | spaced => rintro _ ⟨⟩; decide
  | zoned => rintro _ ⟨⟩; decide
  | universal => rintro _ ⟨⟩; decide
  | universalJoined => rintro _ ⟨⟩; decide
  | zulu => rintro _ ⟨⟩; decide

theorem Writes.separator (writes : stamp.Writes c rest) : c = ' ' ∨ c = 'T' := by
  cases writes <;> simp

/-- The notations in the order in which they are tried. -/
def ofTrimmed? (chars : List Char) : Option Instant :=
  (ofRfc3339? chars).orElse fun _ =>
    (ofUniversal? chars).orElse fun _ => ofOffset? (dropZoneWord chars)

/-- Without a space, only the offset decides what is read. -/
theorem ofTrimmed?_of_free (stops : Stops rest) (free : ' ' ∉ rest) :
    ofTrimmed? (stamp.text 'T' rest) =
      ((readAll? rfc3339Offset rest).bind stamp.wallTime.instant?).orElse fun _ =>
        (readAll? plainOffset rest).bind stamp.wallTime.instant? := by
  have spaceless := space_not_mem_text stamp free
  have universal : ofUniversal? (stamp.text 'T' rest) = none := by
    apply ofUniversal?_eq_none
    intro suffix
    exact spaceless (suffix.subset List.mem_cons_self)
  rw [ofTrimmed?, universal, dropZoneWord_of_free spaceless, ofRfc3339?_text (.inr rfl) stops,
    ofOffset?_text (.inr rfl) stops]
  rfl

theorem ofRfc3339?_spaced (separator : c = ' ' ∨ c = 'T') (others : List Char) :
    ofRfc3339? (stamp.text c (' ' :: others)) = none := by
  have stops : Stops (' ' :: others) := by
    rintro _ ⟨⟩
    decide
  have unread : rfc3339Offset (' ' :: others) = none := rfl
  rw [ofRfc3339?_text separator stops, readAll?_eq, unread]
  rfl

theorem ofOffset?_spaced :
    ofOffset? (stamp.text ' ' (' ' :: stamp.offsetText [])) =
      stamp.wallTime.instant? stamp.offset := by
  have read : plainOffset ([' '] ++ stamp.offsetText []) = some (stamp.offset, []) :=
    plainOffset_offsetText blank_space (List.forall_mem_nil _)
  rw [ofOffset?_text (.inl rfl) Writes.spaced.stops, readAll?_eq, ← List.singleton_append, read]
  rfl

theorem ofTrimmed?_spaced :
    ofTrimmed? (stamp.text ' ' (' ' :: stamp.offsetText [])) =
      stamp.wallTime.instant? stamp.offset := by
  have split : stamp.text ' ' (' ' :: stamp.offsetText []) =
      stamp.text ' ' [] ++ ' ' :: stamp.offsetText [] := text_append stamp ' ' [] _
  have free : ' ' ∉ stamp.offsetText [] := space_not_mem_offsetText List.not_mem_nil
  have marked : ¬(stamp.offsetText []).all Char.isAlpha = true := by
    cases sign : stamp.behind <;> simp [offsetText, sign]
  have universal : ofUniversal? (stamp.text ' ' (' ' :: stamp.offsetText [])) = none := by
    apply ofUniversal?_eq_none
    intro suffix
    rw [split] at suffix
    apply marked
    rw [eq_of_suffix free suffix]
    rfl
  have kept : dropZoneWord (stamp.text ' ' (' ' :: stamp.offsetText [])) =
      stamp.text ' ' (' ' :: stamp.offsetText []) := by
    rw [split, dropZoneWord_append free, if_neg marked]
  rw [ofTrimmed?, ofRfc3339?_spaced (.inl rfl), universal, kept, ofOffset?_spaced]
  rfl

theorem ofTrimmed?_zoned {zone : List Char} (letters : ∀ c ∈ zone, c.isAlpha = true) :
    ofTrimmed? (stamp.text ' ' (' ' :: (stamp.offsetText [] ++ ' ' :: zone))) =
      stamp.wallTime.instant? stamp.offset := by
  have split : stamp.text ' ' (' ' :: (stamp.offsetText [] ++ ' ' :: zone)) =
      stamp.text ' ' (' ' :: stamp.offsetText []) ++ ' ' :: zone :=
    text_append stamp ' ' (' ' :: stamp.offsetText []) _
  have free : ' ' ∉ zone := by
    intro member
    exact absurd (letters ' ' member) (by decide)
  have universal : ofUniversal? (stamp.text ' ' (' ' :: stamp.offsetText []) ++ ' ' :: zone) =
      none := by
    -- A zone may be called UTC, and then an offset is left where the time of day should end.
    by_cases name : zone = ['U', 'T', 'C']
    · rw [name, ofUniversal?_text (.inl rfl) Writes.spaced.stops, if_neg (List.cons_ne_nil _ _)]
    · apply ofUniversal?_eq_none
      intro suffix
      exact name (eq_of_suffix free suffix)
  rw [ofTrimmed?, ofRfc3339?_spaced (.inl rfl), split, universal, dropZoneWord_append free,
    if_pos (List.all_eq_true.mpr letters), ofOffset?_spaced]
  rfl

theorem ofTrimmed?_universal (separator : c = ' ' ∨ c = 'T') :
    ofTrimmed? (stamp.text c universalEnding) = stamp.wallTime.instant? 0 := by
  have split : stamp.text c universalEnding = stamp.text c [] ++ universalEnding :=
    text_append stamp c [] _
  have stops : Stops [] := by
    rintro _ ⟨⟩
  have letters : ['U', 'T', 'C'].all Char.isAlpha = true := rfl
  have zone : dropZoneWord (stamp.text c [] ++ universalEnding) = stamp.text c [] := by
    rw [dropZoneWord_append (by simp), if_pos letters]
  have unread : readAll? plainOffset [] = none := rfl
  rw [ofTrimmed?, ofRfc3339?_spaced separator, split, ofUniversal?_text separator stops, if_pos rfl,
    zone, ofOffset?_text separator stops, unread]
  -- Without the date, the last attempt follows, and what is left for it has no offset.
  cases stamp.wallTime.instant? 0 <;> rfl

/-- In every notation the date, the time of day and the offset are read. -/
theorem ofTrimmed?_text (writes : stamp.Writes c rest) :
    ofTrimmed? (stamp.text c rest) = stamp.wallTime.instant? stamp.offset := by
  cases writes with
  | internet =>
      rw [ofTrimmed?_of_free Writes.internet.stops (space_not_mem_offsetText (by decide)),
        readAll?_eq, readAll?_eq, rfc3339Offset_colon, ← List.nil_append (stamp.offsetText [':']),
        plainOffset_offsetText (List.forall_mem_nil _) (by simp)]
      -- The last attempt may follow the first, but it reads the same offset.
      simp only [Option.bind_some, if_true]
      cases stamp.wallTime.instant? stamp.offset <;> rfl
  | joined =>
      rw [ofTrimmed?_of_free Writes.joined.stops (space_not_mem_offsetText (by decide)),
        readAll?_eq, readAll?_eq, rfc3339Offset_plain, ← List.nil_append (stamp.offsetText []),
        plainOffset_offsetText (List.forall_mem_nil _) (by simp)]
      rfl
  | spaced => exact ofTrimmed?_spaced
  | zoned present letters => exact ofTrimmed?_zoned letters
  | universal zero =>
      rw [zero]
      exact ofTrimmed?_universal (.inl rfl)
  | universalJoined zero =>
      rw [zero]
      exact ofTrimmed?_universal (.inr rfl)
  | zulu zero =>
      have read : readAll? rfc3339Offset ['Z'] = some 0 := rfl
      have unread : readAll? plainOffset ['Z'] = none := rfl
      rw [ofTrimmed?_of_free (Writes.zulu zero).stops (by decide), read, unread, zero]
      simp only [Option.bind_some, Option.bind_none]
      cases stamp.wallTime.instant? 0 <;> rfl

theorem offsetText_eq_append (stamp : Stamp) (between : List Char) :
    ∃ front, stamp.offsetText between = front ++ (padded 2 stamp.offsetMinutes).toList := by
  refine ⟨(if stamp.behind then '-' else '+') ::
    ((padded 2 stamp.offsetHours).toList ++ between), ?_⟩
  rw [offsetText, List.cons_append, List.append_assoc]

/-- A timestamp ends with a digit or with a letter. -/
theorem Writes.ends (writes : stamp.Writes c rest) :
    ∃ front back, rest = front ++ back ∧ back ≠ [] ∧ ∀ d ∈ back, isBlank d = false := by
  have digits : (padded 2 stamp.offsetMinutes).toList ≠ [] ∧
      ∀ d ∈ (padded 2 stamp.offsetMinutes).toList, isBlank d = false := by
    rcases stamp.head_offsetMinutes with ⟨first, others, written, _⟩
    refine ⟨by simp [written], fun d member => ?_⟩
    exact isBlank_of_isDigit (isDigit_of_mem_padded member)
  cases writes with
  | internet =>
      rcases stamp.offsetText_eq_append [':'] with ⟨front, split⟩
      exact ⟨front, _, split, digits⟩
  | joined =>
      rcases stamp.offsetText_eq_append [] with ⟨front, split⟩
      exact ⟨front, _, split, digits⟩
  | spaced =>
      rcases stamp.offsetText_eq_append [] with ⟨front, split⟩
      refine ⟨' ' :: front, _, ?_, digits⟩
      rw [split, List.cons_append]
  | @zoned zone present letters =>
      refine ⟨' ' :: (stamp.offsetText [] ++ [' ']), zone, by simp, present, fun d member => ?_⟩
      exact isBlank_of_isAlpha (letters d member)
  | universal => exact ⟨[' '], ['U', 'T', 'C'], rfl, by decide, by simp [isBlank]⟩
  | universalJoined => exact ⟨[' '], ['U', 'T', 'C'], rfl, by decide, by simp [isBlank]⟩
  | zulu => exact ⟨[], ['Z'], rfl, by decide, by simp [isBlank]⟩

theorem trim_text (writes : stamp.Writes c rest) {before behind : List Char} (blank : Blank before)
    (blankBehind : Blank behind) :
    trim (before ++ (stamp.text c rest ++ behind)) = stamp.text c rest := by
  apply trim_surrounded blank blankBehind
  · intro first head
    rcases head_padded (by omega : 0 < 4) stamp.short.year ('-' :: ((padded 2 stamp.month).toList ++
      '-' :: ((padded 2 stamp.day).toList ++ c :: (stamp.clockText ++ rest)))) with
      ⟨digit, others, written, ascii⟩
    have starts : stamp.text c rest = digit :: others := by
      simpa only [text, dateText, List.append_assoc, List.cons_append] using written
    rw [starts] at head
    rcases Option.some.inj head with rfl
    exact isBlank_of_isDigit ascii
  · intro last ending
    rcases writes.ends with ⟨front, back, rfl, present, visible⟩
    rw [text_append, List.getLast?_append_of_ne_nil _ present] at ending
    exact visible last (List.mem_of_getLast? ending)

/-- All notations of a timestamp are read as the instant that it means, if the date exists, and as
nothing otherwise. -/
theorem ofTimestamp?_text (writes : stamp.Writes c rest) {before behind : String}
    (blank : Blank before.toList) (blankBehind : Blank behind.toList) :
    ofTimestamp? (before ++ String.ofList (stamp.text c rest) ++ behind) =
      if stamp.Exists then some stamp.instant else none := by
  have trimmed : trim (before ++ String.ofList (stamp.text c rest) ++ behind).toList =
      stamp.text c rest := by
    simp only [String.toList_append, String.toList_ofList, List.append_assoc]
    exact trim_text writes blank blankBehind
  have read : ofTimestamp? (before ++ String.ofList (stamp.text c rest) ++ behind) =
      ofTrimmed? (stamp.text c rest) := by
    rw [ofTimestamp?, trimmed, ofTrimmed?]
  rw [read, ofTrimmed?_text writes, instant?_wallTime]

/-- The leap second at the end of 2016, as clocks in India showed it. -/
def leapSecond : Stamp where
  year := 2017
  month := 1
  day := 1
  hour := 5
  minute := 29
  second := 60
  fraction := "1234567891".toList
  behind := false
  offsetHours := 5
  offsetMinutes := 30
  year_le := by decide
  month_mem := by decide
  day_mem := by decide
  hour_le := by decide
  minute_le := by decide
  second_le := by decide
  fraction_digits := by simp
  offsetHours_le := by decide
  offsetMinutes_le := by decide

/-- The same time of day on a date that there is not. -/
def leapSecondOfFebruary : Stamp :=
  { leapSecond with month := 2, day := 30, month_mem := by decide, day_mem := by decide }

theorem ofTimestamp?_text_leapSecond :
    ofTimestamp? " 2017-01-01 05:29:60.1234567891 +0530 IST\n" = some ⟨1483228799, 1123456789⟩ ∧
      ofTimestamp? " 2017-02-30 05:29:60.1234567891 +0530 IST\n" = none := by
  have before : Blank " ".toList := by simp [Blank, isBlank]
  have behind : Blank "\n".toList := by simp [Blank, isBlank]
  have letters : ∀ c ∈ "IST".toList, c.isAlpha = true := by simp
  have instant : leapSecond.instant = ⟨1483228799, 1123456789⟩ := by
    rw [← instant_wallTime]
    decide
  constructor
  · have read := ofTimestamp?_text (.zoned (by decide) letters : leapSecond.Writes ' ' _) before
      behind
    rw [if_pos (by decide), instant] at read
    exact read
  · have read := ofTimestamp?_text (.zoned (by decide) letters : leapSecondOfFebruary.Writes ' ' _)
      before behind
    rw [if_neg (by decide)] at read
    exact read

end EntryTree.Stamp
