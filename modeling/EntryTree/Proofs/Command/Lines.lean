import Mathlib.Data.List.TakeWhile
import EntryTree.Command.Program.Stream

/-!
# Cutting texts into lines

Lines make up the text that they were cut from; every line but the last has an end, and none has
anything behind its end. So what `head` and `tail` print of a text with the same number makes up the
text, lines in reverse are lines that can be reversed again, and the first lines of a text are those
of any beginning with that many ends of lines in it.

A text is empty, a line without an end, or a line with an end in front of a text: `lineInduction` is
the induction on that.
-/

namespace EntryTree.Command

/-- Texts by their lines. -/
theorem lineInduction {motive : List Char → Prop} (empty : motive [])
    (unended : ∀ body, '\n' ∉ body → body ≠ [] → motive body)
    (line : ∀ body rest, '\n' ∉ body → motive rest → motive (body ++ '\n' :: rest))
    (characters : List Char) : motive characters := by
  induction size : characters.length using Nat.strong_induction_on generalizing characters with
  | _ size ih =>
      by_cases ended : '\n' ∈ characters
      · rcases List.eq_append_cons_of_mem ended with ⟨body, rest, rfl, plain⟩
        refine line body rest plain (ih rest.length ?_ rest rfl)
        rw [List.length_append, List.length_cons] at size
        omega
      · by_cases filled : characters = []
        · rw [filled]
          exact empty
        · exact unended characters ended filled

theorem go_of_plain {body : List Char} (plain : '\n' ∉ body) (line rest : List Char) :
    fullLines.go line (body ++ rest) = fullLines.go (body.reverse ++ line) rest := by
  induction body generalizing line with
  | nil => rfl
  | cons c body ih =>
      rw [List.mem_cons, not_or] at plain
      rw [List.cons_append, fullLines.go, ih plain.2]
      · simp
      · exact fun same => plain.1 same.symm

theorem fullLines_of_unended {body : List Char} (plain : '\n' ∉ body) (filled : body ≠ []) :
    fullLines (String.ofList body) = [String.ofList body] := by
  have all := go_of_plain plain [] []
  rw [List.append_nil, List.append_nil] at all
  rw [fullLines, String.toList_ofList, all, fullLines.go, if_neg (by simpa using filled),
    List.reverse_reverse]

theorem fullLines_cons {body : List Char} (plain : '\n' ∉ body) (rest : List Char) :
    fullLines (String.ofList (body ++ '\n' :: rest)) =
      String.ofList (body ++ ['\n']) :: fullLines (String.ofList rest) := by
  rw [fullLines, String.toList_ofList, go_of_plain plain, fullLines.go, fullLines,
    String.toList_ofList]
  simp

/-- Nothing of a text is lost. -/
theorem join_fullLines (text : String) : String.join (fullLines text) = text := by
  suffices joined : ∀ characters, String.join (fullLines (String.ofList characters)) =
      String.ofList characters by
    have all := joined text.toList
    rwa [String.ofList_toList] at all
  intro characters
  induction characters using lineInduction with
  | empty => rfl
  | unended body plain filled =>
      rw [fullLines_of_unended plain filled]
      apply String.toList_injective
      simp
  | line body rest plain ih =>
      rw [fullLines_cons plain, String.join_cons, ih, ← String.ofList_append]
      simp

/-- A line with an end and nothing behind it. -/
def IsEnded (line : String) : Prop :=
  ∃ body, '\n' ∉ body ∧ line = String.ofList (body ++ ['\n'])

/-- A text that consists of ended lines has these lines. -/
theorem fullLines_join {lines : List String} (ended : ∀ line ∈ lines, IsEnded line) :
    fullLines (String.join lines) = lines := by
  induction lines with
  | nil => rfl
  | cons line lines ih =>
      rcases List.forall_mem_cons.mp ended with ⟨⟨body, plain, rfl⟩, others⟩
      have text : String.join (String.ofList (body ++ ['\n']) :: lines) =
          String.ofList (body ++ '\n' :: (String.join lines).toList) := by
        rw [String.join_cons]
        apply String.toList_injective
        simp
      rw [text, fullLines_cons plain, String.ofList_toList, ih others]

/-- The lines of a text that does not stop in the midst of one all have ends. -/
theorem isEnded_of_mem {text : String} (whole : text.toList.getLast?.all (· = '\n') = true) :
    ∀ line ∈ fullLines text, IsEnded line := by
  suffices all : ∀ characters : List Char, characters.getLast?.all (· = '\n') = true →
      ∀ line ∈ fullLines (String.ofList characters), IsEnded line by
    have ended := all text.toList whole
    rwa [String.ofList_toList] at ended
  intro characters
  induction characters using lineInduction with
  | empty => intro _ line member; cases member
  | unended body plain filled =>
      intro whole
      rw [List.getLast?_eq_some_getLast filled, Option.all_some, decide_eq_true_eq] at whole
      exact absurd (whole ▸ List.getLast_mem filled) plain
  | line body rest plain ih =>
      intro whole line member
      rw [fullLines_cons plain] at member
      rcases List.mem_cons.mp member with rfl | later
      · exact ⟨body, plain, rfl⟩
      · refine ih ?_ line later
        cases rest with
        | nil => rfl
        | cons c rest =>
            rw [List.getLast?_append, List.getLast?_cons_cons] at whole
            rw [List.getLast?_eq_some_getLast (List.cons_ne_nil c rest)] at whole ⊢
            exact whole

/-- The first lines of a text are those of any beginning in which as many lines end. -/
theorem take_fullLines_append {front : List Char} {count : Nat}
    (enough : count ≤ front.count '\n') (behind : List Char) :
    (fullLines (String.ofList (front ++ behind))).take count =
      (fullLines (String.ofList front)).take count := by
  induction front using lineInduction generalizing count with
  | empty =>
      rw [Nat.le_zero.mp enough, List.take_zero, List.take_zero]
  | unended body plain _ =>
      rw [List.count_eq_zero.mpr plain] at enough
      rw [Nat.le_zero.mp enough, List.take_zero, List.take_zero]
  | line body rest plain ih =>
      rw [List.append_assoc, List.cons_append, fullLines_cons plain, fullLines_cons plain]
      cases count with
      | zero => rfl
      | succ count =>
          rw [List.count_append, List.count_cons_self, List.count_eq_zero.mpr plain] at enough
          rw [List.take_succ_cons, List.take_succ_cons, ih (by omega)]

/-- What is printed of a text up to a line, or up to a byte, and what is printed from the next one
on make up the text. -/
theorem firstPart_append_lastPart (wanted : Wanted) (first : wanted.other = false)
    (text : String) :
    firstPart wanted text ++
      lastPart { wanted with count := wanted.count + 1, other := true } text = text := by
  unfold firstPart lastPart
  cases wanted.bytes with
  | true =>
      simp only [first, if_true, Bool.false_eq_true, if_false, Nat.add_sub_cancel,
        ← String.ofList_append, List.take_append_drop, String.ofList_toList]
  | false =>
      simp only [first, if_true, Bool.false_eq_true, if_false, Nat.add_sub_cancel,
        ← String.join_append, List.take_append_drop, join_fullLines]

end EntryTree.Command
