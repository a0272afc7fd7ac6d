import EntryTree.Expression.ParseError
import EntryTree.Keyed
import EntryTree.Text.Quoted

/-!
# Primaries

A primary is a parser of the tokens at the front of a list: it answers with a meaning and the
tokens it left, and takes as many as it likes, or it halts. Two ways of combining primaries are
given. A table chooses by the first token and hands the rest to the primary of that name;
alternatives are tried in turn, and the first that does not mismatch decides.
-/

namespace EntryTree

variable {β γ : Type}

/-- A parser of the tokens at the front: a meaning and the tokens that were left. -/
abbrev Primary (β : Type) :=
  List String → Except (Halt ParseError) (β × List String)

namespace Primary

/-- The primary with another meaning. -/
def map (primary : Primary β) (f : β → γ) : Primary γ := fun tokens =>
  (primary tokens).map fun (meaning, rest) => (f meaning, rest)

/-- Tries primaries in turn; if all mismatch, says what was expected. -/
def firstOf (expected : String) : List (Primary β) → Primary β
  | [], _ => .error (.mismatch expected)
  | primary :: others, tokens =>
    match primary tokens with
    | .ok result => .ok result
    | .error halt => if halt.isMismatch then firstOf expected others tokens else .error halt

end Primary

/-- Primaries by name. -/
abbrev PrimaryTable (β : Type) :=
  Keyed (Primary β)

namespace PrimaryTable

/-- The table with one more primary, or `none` if the name is taken. -/
def register? (table : PrimaryTable β) (name : String) (primary : Primary β) :
    Option (PrimaryTable β) :=
  if table.contains name then none else some (table.insert name primary)

/-- The table as one primary: the first token names the one that reads the tokens after it. Once a
name has chosen, there is nothing else to try, and its errors carry the name. -/
def primary (table : PrimaryTable β) : Primary β
  | [] => .error (.mismatch "expected a primary")
  | name :: rest =>
    match table.find? name with
    | none => .error (.mismatch s!"unknown primary or operator {Text.quoted name}")
    | some chosen =>
      (chosen rest).mapError fun halt => ((halt.attributed name).committed).shifted 1

end PrimaryTable
end EntryTree
