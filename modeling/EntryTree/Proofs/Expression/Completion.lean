import EntryTree.Proofs.Expression.Cursor
import EntryTree.Proofs.Expression.Failure

/-!
# Readers with a cursor return

A reader that shares a cursor comes to what the reader that is given the tokens left answers, and
its course is sound. Both are shown at once, for it is the progress of one reader that makes the
next one return. Where readers follow one another, are nested or run behind a token, so do their
runs, and every kind of token is one of these cases. The induction is on the number of tokens left
and on the level, and inside it, for each of the two loops, on the number of tokens alone.
-/

namespace EntryTree.Expression

variable {β : Type}

/-! ## Runs -/

/-- The reader ends as the reading from the position of the cursor on does. Errors are located from
the first token on. -/
inductive Runs (tokens : List String) (least : Nat) (before : Cursor) (reading : Reading β)
    (run : Nat → Option (Outcome (Expression β))) : Prop
  | read (whole : Expression β) (after : Cursor) (ran : Returns run (.ok whole, after))
      (taken : reading = .ok (whole, tokens.drop after.position))
      (course : Course tokens least before after .read)
  | halted (halt : Halt ParseError) (after : Cursor)
      (ran : Returns run (.error (halt.shifted before.position), after))
      (refused : reading = .error halt) (course : Course tokens least before after (.ofHalt halt))

/-- Behind what was read, more is read. -/
def Reading.followedBy (reading : Reading β) (tokens : List String)
    (extend : Expression β → List String → Reading β) : Reading β :=
  match reading with
  | .error halt => .error halt
  | .ok (whole, rest) => (extend whole rest).mapError (·.shifted (tokens.length - rest.length))

def Reading.closed : Reading β → Reading β
  | .error halt => .error halt
  | .ok (_, []) => .error Misplacement.unclosedGroup.error
  | .ok (inner, next :: rest) =>
    if Mark.ofToken? next = some .closing then .ok (.group inner, rest)
    else .error Misplacement.unclosedGroup.error

namespace Runs

variable {tokens : List String} {least more : Nat} {before after : Cursor} {ending : Ending}
  {reading : Reading β} {run outcome : Nat → Option (Outcome (Expression β))}

theorem stay {whole : Expression β} (within : before.position ≤ tokens.length)
    (ran : Returns run (.ok whole, before)) :
    Runs tokens 0 before (.ok (whole, tokens.drop before.position)) run :=
  .read whole before ran rfl (.stay within .read)

/-- However far a reader went, it may stop with an error at the token where it began. -/
theorem misplaced {misplacement : Misplacement} (course : Course tokens more before after ending)
    (returned : ending ≠ .panicked)
    (ran : Returns run (misplaced misplacement before.position, after)) :
    Runs tokens least before (.error misplacement.error) run := by
  refine .halted misplacement.error after ?_ rfl (course.stop returned)
  rwa [Expression.misplaced, ← misplacement.shifted_error] at ran

theorem weaken (runs : Runs tokens more before reading run) (le : least ≤ more) :
    Runs tokens least before reading run := by
  cases runs with
  | read whole after ran taken course => exact .read whole after ran taken (course.weaken le)
  | halted halt after ran refused course =>
      exact .halted halt after ran refused (course.halted (Ending.ofHalt_ne_read halt))

theorem call (called : ∀ fuel, run (fuel + 1) = outcome fuel)
    (runs : Runs tokens least before reading outcome) : Runs tokens least before reading run := by
  cases runs with
  | read whole after ran taken course => exact .read whole after (ran.call called) taken course
  | halted halt after ran refused course =>
      exact .halted halt after (ran.call called) refused course

theorem next (within : before.position < tokens.length)
    (runs : Runs tokens least before.next reading run) :
    Runs tokens (1 + least) before (reading.mapError (·.shifted 1)) run := by
  have step := Course.next within
  cases runs with
  | read whole after ran taken course =>
      exact .read whole after ran (mapError_eq_ok.mpr taken) (step.trans course)
  | halted halt after ran refused course =>
      refine .halted (halt.shifted 1) after ?_ (mapError_eq_error.mpr ⟨halt, refused, rfl⟩) ?_
      · rw [Halt.shifted_shifted, Nat.add_comm]
        exact ran
      · rw [Halt.shifted, Ending.ofHalt_map]
        exact step.trans course

theorem nested (shallow : before.depth < nestingLimit)
    (runs : Runs tokens least before.descend reading run) :
    Runs tokens least before reading fun fuel => (run fuel).map .ascended := by
  cases runs with
  | read whole after ran taken course =>
      exact .read whole after.ascend (ran.map Outcome.ascended) taken
        (course.nested shallow (by decide))
  | halted halt after ran refused course =>
      cases halt with
      | failure fault =>
          exact .halted fault after.ascend (ran.map Outcome.ascended) refused
            (course.nested shallow Ending.failed_ne_panicked)
      | panic message =>
          exact .halted (.panic message) after (ran.map Outcome.ascended) refused
            (course.nested_panicked shallow)

theorem map (f : Expression β → Expression β) (runs : Runs tokens least before reading run) :
    Runs tokens least before (reading.map fun taken => (f taken.1, taken.2)) fun fuel =>
      (run fuel).map (.map f) := by
  cases runs with
  | read whole after ran taken course =>
      rw [taken]
      exact .read (f whole) after (ran.map (Outcome.map f)) rfl course
  | halted halt after ran refused course =>
      rw [refused]
      exact .halted halt after (ran.map (Outcome.map f)) rfl course

theorem closed (runs : Runs tokens least before reading run) :
    Runs tokens least before reading.closed fun fuel =>
      (run fuel).map (closeGroup tokens before.position) := by
  cases runs with
  | halted halt after ran refused course =>
      rw [refused]
      exact .halted halt after (ran.map (closeGroup tokens before.position)) rfl course
  | read inner after ran taken course =>
      have closing := ran.map (closeGroup tokens before.position)
      rw [closeGroup] at closing
      rw [taken]
      cases found : tokens[after.position]? with
      | none =>
          rw [if_neg (by simp [markAt?, found])] at closing
          rw [drop_of_end found]
          exact .misplaced course (by decide) closing
      | some token =>
          rcases drop_of_token found with ⟨inside, split⟩
          have same : markAt? tokens after.position = Mark.ofToken? token := by
            simp [markAt?, found]
          rw [same] at closing
          rw [split, Reading.closed]
          by_cases closes : Mark.ofToken? token = some .closing
          · rw [if_pos closes] at closing ⊢
            exact .read (.group inner) after.next closing rfl
              ((course.trans (.next inside)).weaken (Nat.le_add_right least 1))
          · rw [if_neg closes] at closing ⊢
            exact .misplaced course (by decide) closing

/-- Where one reader leaves the cursor, another one goes on, perhaps without reading anything. -/
theorem followedBy {extend : Expression β → List String → Reading β}
    {goOn : Expression β → Cursor → Nat → Option (Outcome (Expression β))}
    (runs : Runs tokens least before reading run)
    (behind : ∀ whole after, Course tokens least before after .read →
      Runs tokens 0 after (extend whole (tokens.drop after.position)) (goOn whole after)) :
    Runs tokens least before (reading.followedBy (tokens.drop before.position) extend) fun fuel =>
      (run fuel).bind (proceed fun whole after => goOn whole after fuel) := by
  cases runs with
  | halted halt after ran refused course =>
      rw [refused]
      exact .halted halt after (ran.bind (.always _)) rfl course
  | read whole after ran taken course =>
      have passed : (tokens.drop before.position).length - (tokens.drop after.position).length =
          after.position - before.position := by
        have within := course.within
        have position := course.position_le
        simp only [List.length_drop]
        omega
      rw [taken, Reading.followedBy, passed]
      -- The second reader counts from where the first one ended, and both from the first token.
      cases behind whole after course with
      | read joined last joining taken further =>
          exact .read joined last (ran.bind joining) (mapError_eq_ok.mpr taken)
            (course.trans further)
      | halted halt last halting refused further =>
          refine .halted _ last ?_ (mapError_eq_error.mpr ⟨halt, refused, rfl⟩) ?_
          · rw [Halt.shifted_shifted, Nat.sub_add_cancel course.position_le]
            exact ran.bind halting
          · rw [Halt.shifted, Ending.ofHalt_map]
            exact course.trans further

end Runs

/-! ## Readings that follow one another -/

section Following

variable {primary : Primary β} {depth : Nat} {token : String} {after rest : List String}
  {left : Expression β}

theorem mapError_shifted_cons (reading : Reading β) (le : rest.length ≤ after.length) :
    reading.mapError (·.shifted ((token :: after).length - rest.length)) =
      (reading.mapError (·.shifted (after.length - rest.length))).mapError (·.shifted 1) := by
  cases reading with
  | ok answer => rfl
  | error error =>
      rw [mapError_error, mapError_error, mapError_error, Halt.shifted_shifted,
        List.length_cons, Nat.sub_add_comm le]

theorem takeConjunction_followedBy (primary : Primary β) (depth : Nat) (tokens : List String) :
    takeConjunction primary depth tokens =
      (takeOperand primary depth tokens).followedBy tokens (extendConjunction primary depth) :=
  takeConjunction_eq primary depth tokens

theorem takeDisjunction_followedBy (primary : Primary β) (depth : Nat) (tokens : List String) :
    takeDisjunction primary depth tokens =
      (takeConjunction primary depth tokens).followedBy tokens (extendDisjunction primary depth) :=
  takeDisjunction_eq primary depth tokens

theorem takeOperand_negated (mark : Mark.ofToken? token = some .negation)
    (starts : startsOperand after = true) (shallow : depth < nestingLimit) :
    takeOperand primary depth (token :: after) =
      ((takeOperand primary (depth + 1) after).mapError (·.shifted 1)).map fun taken =>
        (.negation token taken.1, taken.2) := by
  rw [takeOperand_negation mark, starts, if_neg (by decide), if_neg (Nat.not_le.mpr shallow)]
  cases takeOperand primary (depth + 1) after <;> rfl

theorem takeOperand_closed (mark : Mark.ofToken? token = some .opening)
    (filled : after.head?.bind Mark.ofToken? ≠ some .closing) (shallow : depth < nestingLimit) :
    takeOperand primary depth (token :: after) =
      Reading.closed ((takeDisjunction primary (depth + 1) after).mapError (·.shifted 1)) := by
  rw [takeOperand_opening mark, if_neg filled, if_neg (Nat.not_le.mpr shallow)]
  rcases takeDisjunction primary (depth + 1) after with error | ⟨inner, _ | ⟨next, rest⟩⟩ <;> rfl

theorem extendConjunction_followedBy (mark : Mark.ofToken? token = some .conjunction)
    (starts : startsOperand after = true) :
    extendConjunction primary depth left (token :: after) =
      ((takeOperand primary depth after).followedBy after fun right =>
        extendConjunction primary depth (.conjunction left (some token) right)).mapError
          (·.shifted 1) := by
  rw [extendConjunction_joined mark, starts]
  cases taken : takeOperand primary depth after with
  | error error => rfl
  | ok answer =>
      have shorter := length_lt_of_takeOperand taken
      exact mapError_shifted_cons _ (Nat.le_of_lt shorter)

theorem extendDisjunction_followedBy (mark : Mark.ofToken? token = some .disjunction)
    (starts : startsOperand after = true) :
    extendDisjunction primary depth left (token :: after) =
      ((takeConjunction primary depth after).followedBy after fun right =>
        extendDisjunction primary depth (.disjunction left token right)).mapError
          (·.shifted 1) := by
  rw [extendDisjunction_joined mark, starts]
  cases taken : takeConjunction primary depth after with
  | error error => rfl
  | ok answer =>
      have shorter := length_lt_of_takeConjunction taken
      exact mapError_shifted_cons _ (Nat.le_of_lt shorter)

end Following

/-! ## Every reader runs to its end -/

section Reader

variable {primary : Primary β} {tokens : List String} {cursor : Cursor} {token : String}
  {left : Expression β}

theorem runs_primary {run : Nat → Option (Outcome (Expression β))}
    (inside : cursor.position < tokens.length)
    (ran : Returns run (runPrimary primary tokens cursor)) :
    Runs tokens 1 cursor (takePrimary primary (tokens.drop cursor.position)) run := by
  have length : (tokens.drop cursor.position).length = tokens.length - cursor.position :=
    List.length_drop
  have asked (ending : Ending) (halts : ending ≠ .read) :
      Course tokens 1 cursor cursor.ask ending :=
    .ask 0 inside (Nat.le_of_lt inside) fun done => absurd done halts
  rw [runPrimary] at ran
  rw [takePrimary_eq]
  cases answer : primary (tokens.drop cursor.position) with
  | error halt =>
      rw [answer] at ran
      exact .halted halt.committed cursor.ask ran rfl (asked _ (Ending.ofHalt_ne_read _))
  | ok taken =>
      rcases taken with ⟨meaning, remaining⟩
      rw [answer] at ran
      by_cases idle : (tokens.drop cursor.position).length - remaining.length = 0
      · simp only [idle, if_true, Nat.lt_irrefl, if_false] at ran ⊢
        exact .misplaced (asked .failed (by decide)) (by decide) ran
      · simp only [idle, if_false, Nat.pos_of_ne_zero idle, if_true, List.drop_drop] at ran ⊢
        exact .read _ _ ran rfl (.ask _ inside (by omega) fun _ => Nat.pos_of_ne_zero idle)

/-- Behind a negation, the operand is read one step deeper. -/
theorem runs_negation (found : tokens[cursor.position]? = some token)
    (mark : Mark.ofToken? token = some .negation)
    (operand : Runs tokens 1 cursor.next.descend
      (takeOperand primary (cursor.depth + 1) (tokens.drop cursor.next.position))
      (runOperand primary tokens cursor.next.descend)) :
    Runs tokens 1 cursor
      (takeOperand primary cursor.depth (token :: tokens.drop cursor.next.position))
      (runOperand primary tokens cursor) := by
  have inside := (drop_of_token found).1
  have step := Course.next inside
  by_cases starts : startsOperand (tokens.drop cursor.next.position) = true
  · by_cases shallow : cursor.depth < nestingLimit
    · have inner : Runs tokens 1 cursor.next _ _ := operand.nested shallow
      rw [takeOperand_negated mark starts shallow]
      exact .call (runOperand_negation found mark starts shallow)
        (((inner.next inside).map (.negation token)).weaken (Nat.le_add_left 1 1))
    · rw [takeOperand_negation mark, starts, if_neg (by decide), if_pos (Nat.not_lt.mp shallow)]
      exact .misplaced step (by decide) (.once fun _ => by
        simp [runOperand, found, mark, starts, Nat.not_lt.mp shallow])
  · rw [takeOperand_negation mark, if_pos (by simp [starts])]
    exact .misplaced step (by decide) (.once fun _ => by simp [runOperand, found, mark, starts])

/-- Inside parentheses, a disjunction is read one step deeper. -/
theorem runs_opening (found : tokens[cursor.position]? = some token)
    (mark : Mark.ofToken? token = some .opening)
    (disjunction : Runs tokens 1 cursor.next.descend
      (takeDisjunction primary (cursor.depth + 1) (tokens.drop cursor.next.position))
      (runDisjunction primary tokens cursor.next.descend)) :
    Runs tokens 1 cursor
      (takeOperand primary cursor.depth (token :: tokens.drop cursor.next.position))
      (runOperand primary tokens cursor) := by
  have inside := (drop_of_token found).1
  have step := Course.next inside
  by_cases empty : markAt? tokens cursor.next.position = some .closing
  · rw [takeOperand_opening mark, ← markAt?_eq, if_pos empty]
    exact .misplaced step (by decide) (.once fun _ => by simp [runOperand, found, mark, empty])
  · by_cases shallow : cursor.depth < nestingLimit
    · have inner : Runs tokens 1 cursor.next _ _ := disjunction.nested shallow
      rw [takeOperand_closed mark (markAt?_eq tokens _ ▸ empty) shallow]
      exact .call (runOperand_opening found mark empty shallow)
        ((inner.next inside).closed.weaken (Nat.le_add_left 1 1))
    · rw [takeOperand_opening mark, ← markAt?_eq, if_neg empty,
        if_pos (Nat.not_lt.mp shallow)]
      exact .misplaced step (by decide) (.once fun _ => by
        simp [runOperand, found, mark, empty, Nat.not_lt.mp shallow])

def Level.run :
    Level → Primary β → List String → Cursor → Nat → Option (Outcome (Expression β))
  | .operand => runOperand
  | .conjunction => runConjunction
  | .disjunction => runDisjunction

/-- Wherever these tokens are left, the reader of the level runs to its end. -/
def Level.Follows (level : Level) (primary : Primary β) (tokens remaining : List String) : Prop :=
  ∀ cursor : Cursor, cursor.position ≤ tokens.length → tokens.drop cursor.position = remaining →
    Runs tokens 1 cursor (level.take primary cursor.depth remaining)
      (level.run primary tokens cursor)

theorem follows_operand {remaining : List String}
    (shorter : ∀ after : List String, after.length < remaining.length →
      ∀ level : Level, level.Follows primary tokens after) :
    Level.operand.Follows primary tokens remaining := by
  intro cursor within left
  simp only [Level.take, Level.run]
  cases found : tokens[cursor.position]? with
  | none =>
      rw [← left, drop_of_end found, takeOperand_nil]
      exact .misplaced (.stay within .failed) (by decide)
        (.once fun _ => by simp only [runOperand, found])
  | some token =>
      rcases drop_of_token found with ⟨inside, split⟩
      have fewer : (tokens.drop cursor.next.position).length < remaining.length := by
        rw [← left, split]
        exact Nat.lt_succ_self _
      rw [← left, split]
      rcases mark : Mark.ofToken? token with _ | mark'
      · rw [takeOperand_primary mark, ← split]
        exact runs_primary inside (.once fun _ => by simp only [runOperand, found, mark])
      · cases mark' with
        | negation => exact runs_negation found mark (shorter _ fewer .operand _ inside rfl)
        | opening => exact runs_opening found mark (shorter _ fewer .disjunction _ inside rfl)
        | closing =>
            rw [takeOperand_closing mark]
            exact .misplaced (.stay within .failed) (by decide)
              (.once fun _ => by simp only [runOperand, found, mark])
        | disjunction =>
            rw [takeOperand_joining (.inl mark)]
            exact .misplaced (.stay within .failed) (by decide)
              (.once fun _ => by simp only [runOperand, found, mark])
        | conjunction =>
            rw [takeOperand_joining (.inr mark)]
            exact .misplaced (.stay within .failed) (by decide)
              (.once fun _ => by simp only [runOperand, found, mark])

/-- Whatever an operand leaves, the loop goes on with, and there are fewer tokens every time. -/
theorem runs_moreOperands {bound : Nat}
    (operands : ∀ after : List String, after.length < bound →
      Level.operand.Follows primary tokens after)
    (within : cursor.position ≤ tokens.length)
    (below : (tokens.drop cursor.position).length < bound) :
    Runs tokens 0 cursor (extendConjunction primary cursor.depth left (tokens.drop cursor.position))
      (moreOperands primary tokens left cursor) := by
  induction remaining : (tokens.drop cursor.position).length using Nat.strongRecOn
    generalizing cursor left with
  | ind count ih =>
      subst remaining
      -- The operand took a token at least, so the induction hypothesis covers the rest of the loop.
      have goesOn (whole : Expression β) {least : Nat} {after : Cursor} (positive : 0 < least)
          (course : Course tokens least cursor after .read) :
          Runs tokens 0 after
            (extendConjunction primary cursor.depth whole (tokens.drop after.position))
            (moreOperands primary tokens whole after) := by
        have fewer := course.fewer positive
        rw [← course.depth_eq (by decide)]
        exact ih _ fewer course.within (Nat.lt_trans fewer below) rfl
      cases found : tokens[cursor.position]? with
      | none =>
          rw [drop_of_end found, extendConjunction_nil, ← drop_of_end found]
          exact .stay within (.once fun _ => by simp only [moreOperands, found])
      | some token =>
          rcases drop_of_token found with ⟨inside, split⟩
          have step := Course.next inside
          by_cases ends : Mark.ofToken? token = some .disjunction ∨
              Mark.ofToken? token = some .closing
          · rw [split, extendConjunction_ending ends, ← split]
            exact .stay within (.once (moreOperands_ending found ends))
          · rw [not_or] at ends
            by_cases joins : Mark.ofToken? token = some .conjunction
            · by_cases starts : startsOperand (tokens.drop cursor.next.position) = true
              · have fewer := step.fewer Nat.one_pos
                have operand := operands _ (Nat.lt_trans fewer below) cursor.next inside rfl
                have more := operand.followedBy fun right after course =>
                  goesOn (.conjunction left (some token) right) Nat.two_pos (step.trans course)
                rw [split, extendConjunction_followedBy joins starts]
                exact .call (moreOperands_joined found joins starts)
                  ((more.next inside).weaken (Nat.zero_le _))
              · rw [split, extendConjunction_joined joins, if_pos (by simp [starts])]
                exact .misplaced step (by decide)
                  (.once fun _ => by simp [moreOperands, found, joins, starts])
            · have operand := operands _ below cursor within rfl
              have more := operand.followedBy fun right after course =>
                goesOn (.conjunction left none right) Nat.one_pos course
              rw [split, extendConjunction_adjacent ends.1 ends.2 joins, ← split]
              exact .call (moreOperands_adjacent found ends.1 ends.2 joins)
                (more.weaken (Nat.zero_le _))

theorem runs_moreConjunctions {bound : Nat}
    (conjunctions : ∀ after : List String, after.length < bound →
      Level.conjunction.Follows primary tokens after)
    (within : cursor.position ≤ tokens.length)
    (below : (tokens.drop cursor.position).length < bound) :
    Runs tokens 0 cursor (extendDisjunction primary cursor.depth left (tokens.drop cursor.position))
      (moreConjunctions primary tokens left cursor) := by
  induction remaining : (tokens.drop cursor.position).length using Nat.strongRecOn
    generalizing cursor left with
  | ind count ih =>
      subst remaining
      cases found : tokens[cursor.position]? with
      | none =>
          rw [drop_of_end found, extendDisjunction_nil, ← drop_of_end found]
          exact .stay within (.once fun _ => by simp only [moreConjunctions, found])
      | some token =>
          rcases drop_of_token found with ⟨inside, split⟩
          have step := Course.next inside
          by_cases joins : Mark.ofToken? token = some .disjunction
          · by_cases starts : startsOperand (tokens.drop cursor.next.position) = true
            · have goesOn (right : Expression β) (after : Cursor)
                  (course : Course tokens 1 cursor.next after .read) :
                  Runs tokens 0 after
                    (extendDisjunction primary cursor.depth (.disjunction left token right)
                      (tokens.drop after.position))
                    (moreConjunctions primary tokens (.disjunction left token right) after) := by
                have whole := step.trans course
                have fewer := whole.fewer Nat.two_pos
                rw [← whole.depth_eq (by decide)]
                exact ih _ fewer whole.within (Nat.lt_trans fewer below) rfl
              have fewer := step.fewer Nat.one_pos
              have conjunction := conjunctions _ (Nat.lt_trans fewer below) cursor.next inside rfl
              rw [split, extendDisjunction_followedBy joins starts]
              exact .call (moreConjunctions_joined found joins starts)
                (((conjunction.followedBy goesOn).next inside).weaken (Nat.zero_le _))
            · rw [split, extendDisjunction_joined joins, if_pos (by simp [starts])]
              exact .misplaced step (by decide)
                (.once fun _ => by simp [moreConjunctions, found, joins, starts])
          · rw [split, extendDisjunction_ending joins, ← split]
            exact .stay within (.once (moreConjunctions_ending found joins))

/-- Wherever tokens are left, the readers run to their ends. -/
theorem Level.follows (level : Level) (primary : Primary β) (tokens remaining : List String) :
    level.Follows primary tokens remaining := by
  induction level, remaining using Level.induction with
  | operand remaining shorter => exact follows_operand shorter
  | conjunction remaining shorter operand =>
      intro cursor within left
      subst left
      have first : Runs tokens 1 cursor _ _ := operand cursor within rfl
      simp only [Level.take, Level.run] at first ⊢
      rw [takeConjunction_followedBy]
      refine .call (fun _ => rfl) (first.followedBy fun whole after course => ?_)
      rw [← course.depth_eq (by decide)]
      exact runs_moreOperands (fun rest less => shorter rest less .operand) course.within
        (course.fewer Nat.one_pos)
  | disjunction remaining shorter conjunction =>
      intro cursor within left
      subst left
      have first : Runs tokens 1 cursor _ _ := conjunction cursor within rfl
      simp only [Level.take, Level.run] at first ⊢
      rw [takeDisjunction_followedBy]
      refine .call (fun _ => rfl) (first.followedBy fun whole after course => ?_)
      rw [← course.depth_eq (by decide)]
      exact runs_moreConjunctions (fun rest less => shorter rest less .conjunction) course.within
        (course.fewer Nat.one_pos)

end Reader

/-! ## Whole expressions -/

/-- What a reader did from a cursor at some position on that nothing had been done with. The depth
was within the limit, and the primary was asked further and further on. -/
structure Cursor.Sound (tokens : List String) (position : Nat) (after : Cursor) : Prop where
  deepest_le : after.deepest ≤ nestingLimit
  position_le : position ≤ after.position
  within : after.position ≤ tokens.length
  ascending : after.asked.Pairwise (· < ·)
  asked : ∀ asked ∈ after.asked, position ≤ asked ∧ asked < tokens.length

theorem Course.sound {tokens : List String} {position depth least : Nat} {after : Cursor}
    {ending : Ending} (course : Course tokens least (.fresh position depth) after ending)
    (shallow : depth ≤ nestingLimit) : after.Sound tokens position := by
  rcases course.asked with ⟨asked, same, ascending, bounds⟩
  have record : after.asked = asked := same
  refine ⟨?_, course.position_le, course.within, record ▸ ascending, ?_⟩
  · exact Nat.le_trans course.deepest_le (Nat.max_le.mpr ⟨shallow, Nat.le_refl _⟩)
  · intro position member
    rw [record] at member
    exact ⟨(bounds position member).1, (bounds position member).2.1⟩

theorem finish_eq {tokens : List String} {whole : Expression β} {cursor : Cursor}
    (within : cursor.position ≤ tokens.length) :
    finish tokens (.ok whole, cursor) =
      (match tokens.drop cursor.position with
        | [] => .ok (some whole)
        | token :: rest =>
          .error (.failure ((Misplacement.leftover token).error.atToken
            (tokens.length - (token :: rest).length))), cursor) := by
  rw [finish]
  cases found : tokens[cursor.position]? with
  | none => rw [drop_of_end found]
  | some token =>
      have position : tokens.length - (tokens.drop cursor.position).length = cursor.position := by
        rw [List.length_drop]
        omega
      rcases drop_of_token found with ⟨inside, split⟩
      rw [split] at position ⊢
      simp only [position]
      rfl

/-- With a cursor, an expression is read as it is from the tokens left. -/
theorem runWhole_eq (primary : Primary β) (tokens : List String) :
    ∃ after : Cursor, Returns (runWhole primary tokens) (read? primary tokens, after) ∧
      after.Sound tokens 0 ∧
      ((∀ message, read? primary tokens ≠ .error (.panic message)) → after.depth = 0) := by
  have start : (0 : Nat) ≤ tokens.length := Nat.zero_le _
  have shallow : 0 ≤ nestingLimit := Nat.zero_le _
  have runs : Runs tokens 1 (.fresh 0 0) (takeDisjunction primary 0 tokens)
      (runDisjunction primary tokens (.fresh 0 0)) :=
    Level.follows .disjunction primary tokens tokens (.fresh 0 0) start rfl
  rw [read?]
  by_cases empty : tokens.isEmpty = true
  · rw [if_pos empty]
    exact ⟨.fresh 0 0, .once fun _ => if_pos empty, (Course.stay start .read).sound shallow,
      fun _ => rfl⟩
  · have unfolded : runWhole primary tokens = fun fuel =>
        (runDisjunction primary tokens (.fresh 0 0) fuel).map (finish tokens) :=
      funext fun _ => if_neg empty
    rw [if_neg empty, read_eq, unfolded]
    cases runs with
    | halted halt after ran refused course =>
        have same : halt.shifted (Cursor.fresh 0 0).position = halt := halt.shifted_zero
        rw [same] at ran
        rw [refused]
        refine ⟨after, ran.map (finish tokens), course.sound shallow, ?_⟩
        intro returned
        cases halt with
        | failure error => exact course.depth_eq Ending.failed_ne_panicked
        | panic message => exact absurd rfl (returned message)
    | read whole after ran taken course =>
        have finished := ran.map (finish tokens)
        rw [finish_eq course.within] at finished
        rw [taken]
        refine ⟨after, ?_, course.sound shallow, fun _ => course.depth_eq (by decide)⟩
        cases rest : tokens.drop after.position <;> rw [rest] at finished <;> exact finished

/-- Every reader comes to an end, whatever the primary does, from every position among the tokens
and at every depth within the limit. It answers as the reader that is given the tokens left. If it
has read something, the cursor has moved on and is still within the tokens. The depth never exceeds
the limit, and it is back unless the primary panicked. Within one expression the primary is asked at
ascending positions, so no token is the first one that it is given twice. -/
theorem readers_return (primary : Primary β) (tokens : List String) :
    (∀ (level : Level) (position depth : Nat), position ≤ tokens.length → depth ≤ nestingLimit →
      ∃ answer after, Returns (level.run primary tokens (.fresh position depth)) (answer, after) ∧
        after.Sound tokens position ∧
        ((∀ message, answer ≠ .error (.panic message)) → after.depth = depth) ∧
        (∀ whole, answer = .ok whole → position < after.position ∧
          level.take primary depth (tokens.drop position) =
            .ok (whole, tokens.drop after.position)) ∧
        ∀ halt, answer = .error halt → ∃ fault,
          level.take primary depth (tokens.drop position) = .error fault ∧
            halt = fault.shifted position) ∧
    ∃ after : Cursor, Returns (runWhole primary tokens) (read? primary tokens, after) ∧
      after.Sound tokens 0 ∧
      ((∀ message, read? primary tokens ≠ .error (.panic message)) → after.depth = 0) := by
  refine ⟨?_, runWhole_eq primary tokens⟩
  intro level position depth within shallow
  cases level.follows primary tokens _ (.fresh position depth) within rfl with
  | read whole after ran taken course =>
      refine ⟨_, after, ran, course.sound shallow, fun _ => course.depth_eq (by decide), ?_, nofun⟩
      rintro _ ⟨⟩
      exact ⟨course.progress rfl, taken⟩
  | halted halt after ran refused course =>
      refine ⟨_, after, ran, course.sound shallow, ?_, nofun, ?_⟩
      · intro returned
        cases halt with
        | failure error => exact course.depth_eq Ending.failed_ne_panicked
        | panic message => exact absurd rfl (returned message)
      · rintro _ ⟨⟩
        exact ⟨halt, refused, rfl⟩

/-- One step below the limit, a negation is read and a negation of a negation is not. -/
theorem readers_return_negations :
    ∃ tokens : List String, tokens = ["!", "!", "even"] ∧ 1 ≤ tokens.length ∧ 255 ≤ nestingLimit ∧
      (∃ whole after, Returns (Level.operand.run Arithmetic.evenWord tokens (.fresh 1 255))
        (.ok whole, after) ∧ 1 < after.position ∧ after.depth = 255 ∧ after.Sound tokens 1) ∧
      ∃ error after, Returns (Level.operand.run Arithmetic.evenWord tokens (.fresh 0 255))
        (.error (.failure error), after) ∧ error.position = 1 ∧ after.depth = 255 ∧
          after.Sound tokens 0 := by
  have read : takeOperand Arithmetic.evenWord 255 ["!", "even"] =
      .ok (.negation "!" (.primary ["even"] (.atomic fun value => value % 2 == 0)), []) := by
    rw [takeOperand_negation (by decide), takeOperand_primary (by decide), takePrimary_eq]
    rfl
  have refused : takeOperand Arithmetic.evenWord 255 ["!", "!", "even"] =
      .error (.failure ((Misplacement.tooDeep nestingLimit).error.shifted 1)) := by
    rw [takeOperand_negation (by decide), takeOperand_negation (by decide)]
    rfl
  have runs := (readers_return Arithmetic.evenWord ["!", "!", "even"]).1 .operand
  refine ⟨_, rfl, by decide, by decide, ?_, ?_⟩
  · rcases runs 1 255 (by decide) (by decide) with
      ⟨halt | whole, after, ran, sound, back, done, halted⟩
    · rcases halted halt rfl with ⟨fault, taken, _⟩
      have same := taken.symm.trans read
      contradiction
    · exact ⟨whole, after, ran, (done whole rfl).1, back nofun, sound⟩
  · rcases runs 0 255 (by decide) (by decide) with
      ⟨halt | whole, after, ran, sound, back, done, halted⟩
    · rcases halted halt rfl with ⟨fault, taken, rfl⟩
      cases taken.symm.trans refused
      exact ⟨_, after, ran, rfl, back nofun, sound⟩
    · have same := (done whole rfl).2.symm.trans refused
      contradiction

end EntryTree.Expression
