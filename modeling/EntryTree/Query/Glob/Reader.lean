import EntryTree.Expression.ParseError
import EntryTree.Query.Glob.Basic
import EntryTree.Text.Quoted

/-!
# Reading glob patterns

A pattern is read character by character, with the branches of the braces that are still open on a
stack. A backslash takes the next character as it is. Braces nest; a comma separates branches
inside them and is literal outside.

Two stars stand for levels of directories only in a place of their own: at the front of a branch
before a separator or the end, or between a separator and another separator or the end of the
branch; there they take the place of the separator in front of them. Anywhere else they are two
single stars.
-/

namespace EntryTree.Glob

/-- A brace that is still open: its finished branches and the parts in front of it, both newest
first. -/
structure Brace where
  branches : List (List Part)
  outer : List Part

/-- A pattern that is being read. -/
structure Draft where
  /-- The parts of the current branch, newest first. -/
  parts : List Part
  /-- The open braces, innermost first. -/
  braces : List Brace
  /-- The character that was read last. -/
  previous : Option Char

namespace Draft

/-- The draft of which nothing was read. -/
def start : Draft :=
  ⟨[], [], none⟩

/-- Appends a part that ends with a character. -/
def push (draft : Draft) (part : Part) (last : Char) : Draft :=
  { draft with parts := part :: draft.parts, previous := some last }

/-- Opens a brace. -/
def openBrace (draft : Draft) : Draft :=
  ⟨[], ⟨[], draft.parts⟩ :: draft.braces, some '\x7b'⟩

/-- Closes the innermost brace. -/
def closeBrace (draft : Draft) : Except Refusal Draft :=
  match draft.braces with
  | [] => .error .unopenedAlternatives
  | ⟨branches, outer⟩ :: braces =>
    let all := (draft.parts.reverse :: branches).reverse
    .ok ⟨.alternatives all :: outer, braces, some '\x7d'⟩

/-- Begins another branch, or takes the comma literally outside of braces. -/
def comma (draft : Draft) : Draft :=
  match draft.braces with
  | [] => draft.push (.literal ',') ','
  | ⟨branches, outer⟩ :: braces =>
    ⟨[], ⟨draft.parts.reverse :: branches, outer⟩ :: braces, some ','⟩

/-- Appends two single stars. -/
def twoStars (draft : Draft) : Draft :=
  (draft.push .anyBytes '*').push .anyBytes '*'

/-- Puts levels of directories in the place of the separator in front of them; levels that end
there already cover more of them. -/
def replaceSeparator (draft : Draft) (part : Part) (last : Char) : Draft :=
  match draft.parts with
  | .leadingLevels :: _ | .trailingLevels :: _ => { draft with previous := some last }
  | _ :: parts => { draft with parts := part :: parts, previous := some last }
  | [] => draft.push part last

/-- Reads two stars in front of the character `next`, if there is one. The result also says
whether that character is a separator which the levels of directories cover. -/
def doubleStar (draft : Draft) (next : Option Char) : Draft × Bool :=
  let inBraces := !draft.braces.isEmpty
  if draft.parts.isEmpty then
    match next with
    | none => (draft.push .leadingLevels '*', false)
    | some '/' => (draft.push .leadingLevels '/', true)
    | some _ => (draft.twoStars, false)
  else
    let separated := draft.previous = some '/' ||
      (inBraces && (draft.previous = some ',' || draft.previous = some '\x7b'))
    if !separated then (draft.twoStars, false)
    else
      match next with
      | none => (draft.replaceSeparator .trailingLevels '*', false)
      | some '/' => (draft.replaceSeparator .innerLevels '/', true)
      | some c =>
        if inBraces && (c = ',' || c = '\x7d') then
          (draft.replaceSeparator .trailingLevels '*', false)
        else (draft.twoStars, false)

/-- The parts of a pattern that was read to its end. -/
def finish (draft : Draft) : Except Refusal Pattern :=
  if draft.braces.isEmpty then .ok draft.parts.reverse else .error .unclosedAlternatives

end Draft

/-- Reads the members of a class up to its closing bracket. `members` are those read so far, newest
first; `pending` says that a hyphen was read behind the newest one. The result ends with what
follows the bracket. -/
def readMembers (members : List (Char × Char)) (pending : Bool) :
    List Char → Except Refusal (List (Char × Char) × List Char)
  | [] => .error .unclosedClass
  | c :: rest =>
    match members with
    | [] => readMembers [(c, c)] false rest
    | (first, last) :: others =>
      if c = ']' then
        let members := if pending then ('-', '-') :: members else members
        .ok (members.reverse, rest)
      else if pending then
        if c < first then .error (.invalidInterval first c)
        else readMembers ((first, c) :: others) false rest
      else if c = '-' then readMembers ((first, last) :: others) true rest
      else readMembers ((c, c) :: (first, last) :: others) false rest

theorem length_readMembers {members read : List (Char × Char)} {pending : Bool}
    {chars rest : List Char} (done : readMembers members pending chars = .ok (read, rest)) :
    rest.length < chars.length := by
  fun_induction readMembers members pending chars with
  | case1 => cases done
  | case2 _ _ _ ih => exact Nat.lt_succ_of_lt (ih done)
  | case3 =>
      cases done
      exact Nat.lt_succ_self _
  | case4 => cases done
  | case5 _ _ _ _ _ _ _ ih => exact Nat.lt_succ_of_lt (ih done)
  | case6 _ _ _ _ _ _ _ ih => exact Nat.lt_succ_of_lt (ih done)
  | case7 _ _ _ _ _ _ _ _ _ ih => exact Nat.lt_succ_of_lt (ih done)

/-- Reads a class behind its opening bracket. -/
def readClass (chars : List Char) : Except Refusal (Part × List Char) :=
  let (negated, members) :=
    match chars with
    | '!' :: rest => (true, rest)
    | '^' :: rest => (true, rest)
    | rest => (false, rest)
  match readMembers [] false members with
  | .error refusal => .error refusal
  | .ok (members, rest) => .ok (.oneOf negated members, rest)

theorem length_readClass {chars rest : List Char} {part : Part}
    (done : readClass chars = .ok (part, rest)) : rest.length < chars.length := by
  unfold readClass at done
  split at done
  next negated members split =>
    have notLonger : members.length ≤ chars.length := by
      split at split <;> cases split <;> simp
    split at done
    · cases done
    · next read =>
        cases done
        have := length_readMembers read
        omega

/-- Continues a draft with the characters that are left of the pattern. -/
def readParts (draft : Draft) (chars : List Char) : Except Refusal Pattern :=
  match chars with
  | [] => draft.finish
  | '?' :: rest => readParts (draft.push .anyByte '?') rest
  | '*' :: '*' :: rest =>
    let (draft, covers) := draft.doubleStar rest.head?
    readParts draft (if covers then rest.tail else rest)
  | '*' :: rest => readParts (draft.push .anyBytes '*') rest
  | '[' :: rest =>
    match _read : readClass rest with
    | .error refusal => .error refusal
    | .ok (part, rest) => readParts (draft.push part ']') rest
  | '\x7b' :: rest => readParts draft.openBrace rest
  | '\x7d' :: rest =>
    match draft.closeBrace with
    | .error refusal => .error refusal
    | .ok draft => readParts draft rest
  | ',' :: rest => readParts draft.comma rest
  | ['\\'] => .error .danglingEscape
  | '\\' :: c :: rest => readParts (draft.push (.literal c) c) rest
  | c :: rest => readParts (draft.push (.literal c) c) rest
termination_by chars.length
decreasing_by
  all_goals simp only [List.length_cons]
  all_goals try omega
  · split
    · simp; omega
    · omega
  · have := length_readClass _read
    omega

/-- Reads a pattern. -/
def Pattern.read (text : String) : Except Refusal Pattern :=
  readParts .start text.toList

/-- Reads a pattern that is an argument of a query. -/
def Pattern.ofToken (token : String) : Except ParseError Pattern :=
  (Pattern.read token).mapError fun refusal =>
    .malformed s!"invalid pattern {Text.quoted token}: {refusal.message}"

end EntryTree.Glob
