import EntryTree.Expression.Reader

/-!
# Cursors

The readers of an expression hand on the tokens that are left and the depth. Here are readers that
share a cursor instead, which moves over the tokens and counts the depth up and down. Nothing is
built in that would make them return, bring the depth back or ask the primary about a token only
once. Every call costs fuel, and a reader returns if some amount of fuel is enough; one that would
run on forever has no outcome, however much fuel it is given. A reader that panics has one, but
nothing that waits for it goes on.

What a cursor went through between two of its states is a course, and courses compose: whatever one
reader does with the cursor, the next one does behind it.
-/

namespace EntryTree.Expression

variable {β γ : Type}

/-! ## Readers that share a cursor -/

/-- Where in the tokens a reader is and how deep, with a record of what was done on the way. -/
structure Cursor where
  position : Nat
  depth : Nat
  /-- The greatest depth so far. -/
  deepest : Nat
  /-- The positions where the primary was asked, in the order of asking. -/
  asked : List Nat

namespace Cursor

def fresh (position depth : Nat) : Cursor :=
  ⟨position, depth, depth, []⟩

def next (cursor : Cursor) : Cursor :=
  { cursor with position := cursor.position + 1 }

def descend (cursor : Cursor) : Cursor :=
  { cursor with depth := cursor.depth + 1, deepest := max cursor.deepest (cursor.depth + 1) }

def ascend (cursor : Cursor) : Cursor :=
  { cursor with depth := cursor.depth - 1 }

def ask (cursor : Cursor) : Cursor :=
  { cursor with asked := cursor.asked ++ [cursor.position] }

def advance (cursor : Cursor) (count : Nat) : Cursor :=
  { cursor with position := cursor.position + count }

end Cursor

/-- What a reader answers, and the cursor as it leaves it. -/
abbrev Outcome (γ : Type) :=
  Except (Halt ParseError) γ × Cursor

def Outcome.map (f : γ → γ) (outcome : Outcome γ) : Outcome γ :=
  (outcome.1.map f, outcome.2)

/-- A reader that is called one step deeper brings the cursor up again when it returns. -/
def Outcome.ascended : Outcome γ → Outcome γ
  | (.error (.panic message), cursor) => (.error (.panic message), cursor)
  | (answer, cursor) => (answer, cursor.ascend)

/-- With what was read a reader goes on, and a halt ends it. -/
def proceed (goOn : γ → Cursor → Option (Outcome γ)) : Outcome γ → Option (Outcome γ)
  | (.error halt, cursor) => some (.error halt, cursor)
  | (.ok whole, cursor) => goOn whole cursor

def misplaced (misplacement : Misplacement) (position : Nat) : Except (Halt ParseError) γ :=
  .error (misplacement.error.atToken position : ParseError)

section Machine

variable (primary : Primary β) (tokens : List String)

def markAt? (position : Nat) : Option Mark :=
  tokens[position]?.bind Mark.ofToken?

/-- Asks the primary, which has to take a token at least. -/
def runPrimary (cursor : Cursor) : Outcome (Expression β) :=
  let rest := tokens.drop cursor.position
  match primary rest with
  | .error halt => (.error (halt.committed.shifted cursor.position), cursor.ask)
  | .ok (meaning, remaining) =>
    let consumed := rest.length - remaining.length
    if consumed = 0 then (misplaced .idlePrimary cursor.position, cursor.ask)
    else (.ok (.primary (rest.take consumed) meaning), cursor.ask.advance consumed)

/-- Looks for the end of a group that was opened at some position. -/
def closeGroup (opened : Nat) : Outcome (Expression β) → Outcome (Expression β)
  | (.error halt, cursor) => (.error halt, cursor)
  | (.ok inner, cursor) =>
    if markAt? tokens cursor.position = some .closing then (.ok (.group inner), cursor.next)
    else (misplaced .unclosedGroup opened, cursor)

mutual

def runOperand : Cursor → Nat → Option (Outcome (Expression β))
  | _, 0 => none
  | cursor, fuel + 1 =>
    match tokens[cursor.position]? with
    | none => some (misplaced .nothingThere cursor.position, cursor)
    | some token =>
      match Mark.ofToken? token with
      | some .negation =>
        if !startsOperand (tokens.drop cursor.next.position) then
          some (misplaced (.nothingAfter token) cursor.position, cursor.next)
        else if nestingLimit ≤ cursor.depth then
          some (misplaced (.tooDeep nestingLimit) cursor.position, cursor.next)
        else
          ((runOperand cursor.next.descend fuel).map .ascended).map (.map (.negation token))
      | some .opening =>
        if markAt? tokens cursor.next.position = some .closing then
          some (misplaced .emptyGroup cursor.position, cursor.next)
        else if nestingLimit ≤ cursor.depth then
          some (misplaced (.tooDeep nestingLimit) cursor.position, cursor.next)
        else
          ((runDisjunction cursor.next.descend fuel).map .ascended).map
            (closeGroup tokens cursor.position)
      | some .closing => some (misplaced .unopenedGroup cursor.position, cursor)
      | some .disjunction | some .conjunction =>
        some (misplaced (.nothingBefore token) cursor.position, cursor)
      | none => some (runPrimary primary tokens cursor)

def runConjunction : Cursor → Nat → Option (Outcome (Expression β))
  | _, 0 => none
  | cursor, fuel + 1 =>
    (runOperand cursor fuel).bind (proceed fun first after => moreOperands first after fuel)

def moreOperands : Expression β → Cursor → Nat → Option (Outcome (Expression β))
  | _, _, 0 => none
  | left, cursor, fuel + 1 =>
    match tokens[cursor.position]? with
    | none => some (.ok left, cursor)
    | some token =>
      match Mark.ofToken? token with
      | some .disjunction | some .closing => some (.ok left, cursor)
      | some .conjunction =>
        if !startsOperand (tokens.drop cursor.next.position) then
          some (misplaced (.nothingAfter token) cursor.position, cursor.next)
        else
          (runOperand cursor.next fuel).bind (proceed fun right after =>
            moreOperands (.conjunction left (some token) right) after fuel)
      | _ =>
        (runOperand cursor fuel).bind (proceed fun right after =>
          moreOperands (.conjunction left none right) after fuel)

def runDisjunction : Cursor → Nat → Option (Outcome (Expression β))
  | _, 0 => none
  | cursor, fuel + 1 =>
    (runConjunction cursor fuel).bind (proceed fun first after => moreConjunctions first after fuel)

def moreConjunctions : Expression β → Cursor → Nat → Option (Outcome (Expression β))
  | _, _, 0 => none
  | left, cursor, fuel + 1 =>
    match tokens[cursor.position]? with
    | none => some (.ok left, cursor)
    | some token =>
      match Mark.ofToken? token with
      | some .disjunction =>
        if !startsOperand (tokens.drop cursor.next.position) then
          some (misplaced (.nothingAfter token) cursor.position, cursor.next)
        else
          (runConjunction cursor.next fuel).bind (proceed fun right after =>
            moreConjunctions (.disjunction left token right) after fuel)
      | _ => some (.ok left, cursor)

end

/-- Looks for a token behind an expression. -/
def finish : Outcome (Expression β) → Outcome (Option (Expression β))
  | (.error halt, cursor) => (.error halt, cursor)
  | (.ok whole, cursor) =>
    match tokens[cursor.position]? with
    | none => (.ok (some whole), cursor)
    | some token => (misplaced (.leftover token) cursor.position, cursor)

/-- Reads all tokens as an expression, or as none at all if there are none. -/
def runWhole (fuel : Nat) : Option (Outcome (Option (Expression β))) :=
  if tokens.isEmpty then some (.ok none, .fresh 0 0)
  else (runDisjunction primary tokens (.fresh 0 0) fuel).map (finish tokens)

end Machine

/-! ## Returning -/

/-- Some amount of fuel is enough for the result, and more makes no difference. -/
def Returns (run : Nat → Option γ) (result : γ) : Prop :=
  ∃ enough, ∀ fuel, enough ≤ fuel → run fuel = some result

namespace Returns

variable {δ : Type} {run outcome : Nat → Option γ} {result : γ} {final : δ}

theorem always (result : γ) : Returns (fun _ => some result) result :=
  ⟨0, fun _ _ => rfl⟩

theorem call (called : ∀ fuel, run (fuel + 1) = outcome fuel) (returns : Returns outcome result) :
    Returns run result := by
  rcases returns with ⟨enough, returns⟩
  refine ⟨enough + 1, ?_⟩
  intro fuel le
  cases fuel with
  | zero => contradiction
  | succ fuel => rw [called, returns fuel (Nat.le_of_succ_le_succ le)]

theorem once (ends : ∀ fuel, run (fuel + 1) = some result) : Returns run result :=
  .call ends (.always result)

theorem map (f : γ → δ) (returns : Returns run result) :
    Returns (fun fuel => (run fuel).map f) (f result) := by
  rcases returns with ⟨enough, returns⟩
  refine ⟨enough, ?_⟩
  intro fuel le
  simp only [returns fuel le, Option.map_some]

theorem bind {goOn : Nat → γ → Option δ} (returns : Returns run result)
    (behind : Returns (fun fuel => goOn fuel result) final) :
    Returns (fun fuel => (run fuel).bind (goOn fuel)) final := by
  rcases returns with ⟨enough, returns⟩
  rcases behind with ⟨enoughBehind, behind⟩
  refine ⟨max enough enoughBehind, ?_⟩
  intro fuel le
  have first := returns fuel (Nat.le_trans (Nat.le_max_left _ _) le)
  simp only [first, Option.bind_some]
  exact behind fuel (Nat.le_trans (Nat.le_max_right _ _) le)

end Returns

/-! ## One equation for each kind of token -/

section Equations

variable {primary : Primary β} {tokens : List String} {cursor : Cursor} {token : String}
  {left : Expression β}

theorem drop_of_token (present : tokens[cursor.position]? = some token) :
    cursor.position < tokens.length ∧
      tokens.drop cursor.position = token :: tokens.drop cursor.next.position := by
  rcases List.getElem?_eq_some_iff.mp present with ⟨inside, same⟩
  refine ⟨inside, ?_⟩
  rw [List.drop_eq_getElem_cons inside, same]
  rfl

theorem drop_of_end (missing : tokens[cursor.position]? = none) :
    tokens.drop cursor.position = [] :=
  List.drop_eq_nil_of_le (List.getElem?_eq_none_iff.mp missing)

theorem markAt?_eq (tokens : List String) (position : Nat) :
    markAt? tokens position = (tokens.drop position).head?.bind Mark.ofToken? := by
  rw [markAt?, List.head?_drop]

theorem runOperand_negation (found : tokens[cursor.position]? = some token)
    (mark : Mark.ofToken? token = some .negation)
    (starts : startsOperand (tokens.drop cursor.next.position) = true)
    (shallow : cursor.depth < nestingLimit) (fuel : Nat) :
    runOperand primary tokens cursor (fuel + 1) =
      ((runOperand primary tokens cursor.next.descend fuel).map .ascended).map
        (.map (.negation token)) := by
  simp only [runOperand, found, mark, starts, Bool.not_true, Bool.false_eq_true, if_false,
    Nat.not_le.mpr shallow]

theorem runOperand_opening (found : tokens[cursor.position]? = some token)
    (mark : Mark.ofToken? token = some .opening)
    (filled : markAt? tokens cursor.next.position ≠ some .closing)
    (shallow : cursor.depth < nestingLimit) (fuel : Nat) :
    runOperand primary tokens cursor (fuel + 1) =
      ((runDisjunction primary tokens cursor.next.descend fuel).map .ascended).map
        (closeGroup tokens cursor.position) := by
  simp only [runOperand, found, mark, filled, if_false, Nat.not_le.mpr shallow]

theorem moreOperands_ending (found : tokens[cursor.position]? = some token)
    (mark : Mark.ofToken? token = some .disjunction ∨ Mark.ofToken? token = some .closing)
    (fuel : Nat) :
    moreOperands primary tokens left cursor (fuel + 1) = some (.ok left, cursor) := by
  rcases mark with mark | mark <;> simp only [moreOperands, found, mark]

theorem moreOperands_joined (found : tokens[cursor.position]? = some token)
    (mark : Mark.ofToken? token = some .conjunction)
    (starts : startsOperand (tokens.drop cursor.next.position) = true) (fuel : Nat) :
    moreOperands primary tokens left cursor (fuel + 1) =
      (runOperand primary tokens cursor.next fuel).bind (proceed fun right after =>
        moreOperands primary tokens (.conjunction left (some token) right) after fuel) := by
  simp only [moreOperands, found, mark, starts, Bool.not_true, Bool.false_eq_true, if_false]

theorem moreOperands_adjacent (found : tokens[cursor.position]? = some token)
    (disjunction : Mark.ofToken? token ≠ some .disjunction)
    (closing : Mark.ofToken? token ≠ some .closing)
    (conjunction : Mark.ofToken? token ≠ some .conjunction) (fuel : Nat) :
    moreOperands primary tokens left cursor (fuel + 1) =
      (runOperand primary tokens cursor fuel).bind (proceed fun right after =>
        moreOperands primary tokens (.conjunction left none right) after fuel) := by
  simp only [moreOperands, found]

theorem moreConjunctions_ending (found : tokens[cursor.position]? = some token)
    (disjunction : Mark.ofToken? token ≠ some .disjunction) (fuel : Nat) :
    moreConjunctions primary tokens left cursor (fuel + 1) = some (.ok left, cursor) := by
  simp only [moreConjunctions, found]

theorem moreConjunctions_joined (found : tokens[cursor.position]? = some token)
    (mark : Mark.ofToken? token = some .disjunction)
    (starts : startsOperand (tokens.drop cursor.next.position) = true) (fuel : Nat) :
    moreConjunctions primary tokens left cursor (fuel + 1) =
      (runConjunction primary tokens cursor.next fuel).bind (proceed fun right after =>
        moreConjunctions primary tokens (.disjunction left token right) after fuel) := by
  simp only [moreConjunctions, found, mark, starts, Bool.not_true, Bool.false_eq_true, if_false]

end Equations

/-! ## The course of a cursor -/

/-- How a reader leaves its cursor. -/
inductive Ending
  | read
  | failed
  | panicked
  deriving DecidableEq

/-- The ending of a reader that halts. -/
def Ending.ofHalt : Halt ParseError → Ending
  | .failure _ => .failed
  | .panic _ => .panicked

theorem Ending.failed_ne_panicked : failed ≠ panicked := by decide

theorem Ending.ofHalt_ne_read (halt : Halt ParseError) : ofHalt halt ≠ .read := by
  cases halt <;> nofun

theorem Ending.ofHalt_map (f : ParseError → ParseError) (halt : Halt ParseError) :
    ofHalt (halt.map f) = ofHalt halt := by
  cases halt <;> rfl

/-- From one state of the cursor to another, the depth went no further than the limit and is back
unless there was a panic, and the primary was asked further and further on. If something was read,
the cursor moved on by `least` tokens at least, beyond the tokens that the primary was asked
about. -/
structure Course (tokens : List String) (least : Nat) (before after : Cursor) (ending : Ending) :
    Prop where
  depth_eq : ending ≠ .panicked → after.depth = before.depth
  position_le : before.position ≤ after.position
  within : after.position ≤ tokens.length
  progress : ending = .read → before.position + least ≤ after.position
  deepest_le : after.deepest ≤ max before.deepest nestingLimit
  asked : ∃ asked, after.asked = before.asked ++ asked ∧ asked.Pairwise (· < ·) ∧
    ∀ position ∈ asked, before.position ≤ position ∧ position < tokens.length ∧
      (ending = .read → position < after.position)

namespace Course

variable {tokens : List String} {least more : Nat} {before middle after : Cursor} {ending : Ending}

theorem stay (within : before.position ≤ tokens.length) (ending : Ending) :
    Course tokens 0 before before ending :=
  ⟨fun _ => rfl, Nat.le_refl _, within, fun _ => Nat.le_refl _, Nat.le_max_left _ _,
    [], (List.append_nil _).symm, .nil, List.forall_mem_nil _⟩

theorem next (within : before.position < tokens.length) :
    Course tokens 1 before before.next .read :=
  ⟨fun _ => rfl, Nat.le_succ _, within, fun _ => Nat.le_refl _, Nat.le_max_left _ _,
    [], (List.append_nil _).symm, .nil, List.forall_mem_nil _⟩

theorem ask (count : Nat) (inside : before.position < tokens.length)
    (within : before.position + count ≤ tokens.length) (progress : ending = .read → 1 ≤ count) :
    Course tokens 1 before (before.ask.advance count) ending := by
  refine ⟨fun _ => rfl, Nat.le_add_right _ _, within, ?_, Nat.le_max_left _ _, [before.position],
    rfl, List.pairwise_singleton _ _, ?_⟩
  · intro done
    exact Nat.add_le_add_left (progress done) _
  · intro position member
    rw [List.mem_singleton.mp member]
    exact ⟨Nat.le_refl _, inside, fun done => Nat.lt_add_of_pos_right (progress done)⟩

/-- A reader that fails owes less than one that has read something. -/
theorem stop (course : Course tokens least before after ending) (returned : ending ≠ .panicked) :
    Course tokens more before after .failed := by
  rcases course.asked with ⟨asked, same, ascending, bounds⟩
  refine ⟨fun _ => course.depth_eq returned, course.position_le, course.within, nofun,
    course.deepest_le, asked, same, ascending, ?_⟩
  intro position member
  exact ⟨(bounds position member).1, (bounds position member).2.1, nofun⟩

theorem halted (course : Course tokens least before after ending) (halts : ending ≠ .read) :
    Course tokens more before after ending :=
  ⟨course.depth_eq, course.position_le, course.within, fun done => absurd done halts,
    course.deepest_le, course.asked⟩

theorem weaken (course : Course tokens more before after ending) (le : least ≤ more) :
    Course tokens least before after ending :=
  ⟨course.depth_eq, course.position_le, course.within,
    fun done => Nat.le_trans (Nat.add_le_add_left le _) (course.progress done), course.deepest_le,
    course.asked⟩

/-- What is asked behind a position that was reached is asked further on than what was asked
before. -/
theorem trans (first : Course tokens least before middle .read)
    (second : Course tokens more middle after ending) :
    Course tokens (least + more) before after ending := by
  rcases first.asked with ⟨asked, same, ascending, bounds⟩
  rcases second.asked with ⟨others, sameOthers, ascendingOthers, boundsOthers⟩
  have progress := first.progress rfl
  refine ⟨fun returned => (second.depth_eq returned).trans (first.depth_eq nofun),
    Nat.le_trans first.position_le second.position_le,
    second.within, ?_, ?_, asked ++ others, ?_, ?_, ?_⟩
  · intro done
    have onward := second.progress done
    omega
  · have before := first.deepest_le
    have behind := second.deepest_le
    omega
  · rw [sameOthers, same, List.append_assoc]
  · rw [List.pairwise_append]
    refine ⟨ascending, ascendingOthers, ?_⟩
    -- What was asked first lies before the middle, and what was asked then does not.
    intro position member other otherMember
    exact Nat.lt_of_lt_of_le ((bounds position member).2.2 rfl) (boundsOthers other otherMember).1
  · intro position member
    rcases List.mem_append.mp member with early | late
    · rcases bounds position early with ⟨lower, upper, passed⟩
      exact ⟨lower, upper, fun _ => Nat.lt_of_lt_of_le (passed rfl) second.position_le⟩
    · rcases boundsOthers position late with ⟨lower, upper, passed⟩
      exact ⟨Nat.le_trans first.position_le lower, upper, passed⟩

theorem fewer (course : Course tokens least before after .read) (positive : 0 < least) :
    (tokens.drop after.position).length < (tokens.drop before.position).length := by
  have progress := course.progress rfl
  have within := course.within
  simp only [List.length_drop]
  omega

/-- Below the limit, one step down and up again makes no difference. -/
theorem nested (shallow : before.depth < nestingLimit)
    (course : Course tokens least before.descend after ending) (returned : ending ≠ .panicked) :
    Course tokens least before after.ascend ending := by
  have depth := course.depth_eq returned
  have deepest := course.deepest_le
  refine ⟨fun _ => ?_, course.position_le, course.within, course.progress, ?_, course.asked⟩
  · simp only [Cursor.ascend, Cursor.descend] at depth ⊢
    omega
  · simp only [Cursor.ascend, Cursor.descend] at deepest ⊢
    omega

/-- A panic one step deeper leaves the cursor there. -/
theorem nested_panicked (shallow : before.depth < nestingLimit)
    (course : Course tokens least before.descend after .panicked) :
    Course tokens least before after .panicked := by
  have deepest := course.deepest_le
  refine ⟨nofun, course.position_le, course.within, nofun, ?_, course.asked⟩
  simp only [Cursor.descend] at deepest
  omega

end Course

end EntryTree.Expression
