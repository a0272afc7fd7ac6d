/-!
# Shell scripts

The language of shells: commands of words and redirections, pipelines, lists, compound commands
and functions. A word is written piece by piece: plain text, quoted text, parameters, the output
of commands, and arithmetic.
-/

namespace EntryTree.Command

/-- What a redirection does with its descriptor. -/
inductive RedirectionMode
  | read
  | write
  | append
  | readWrite
  /-- Makes the descriptor lead to where another one leads. -/
  | duplicate
  /-- Makes the descriptor read the target itself. -/
  | document
  deriving DecidableEq, Repr

mutual

/-- A piece of a word. -/
inductive Piece
  | text (characters : String) (quoted : Bool)
  /-- A pair of quotes, by which a word is there even if it is empty. -/
  | quotes
  | parameter (name : String) (use : ParameterUse) (quoted : Bool)
  | output (script : Script) (quoted : Bool)
  | arithmetic (expression : List Piece) (quoted : Bool)

/-- What a word does with the value of a parameter. `emptyToo` treats an empty value like none. -/
inductive ParameterUse
  | value
  | length
  | orElse (emptyToo : Bool) (word : List Piece)
  | orAssign (emptyToo : Bool) (word : List Piece)
  | orFail (emptyToo : Bool) (word : List Piece)
  | instead (emptyToo : Bool) (word : List Piece)
  | trim (atEnd longest : Bool) (pattern : List Piece)
  /-- A use that has no meaning. -/
  | bad

/-- A descriptor, what is done with it, and the word that names the target. -/
inductive Redirection
  | mk (descriptor : Nat) (mode : RedirectionMode) (target : List Piece)

/-- A command of a script, with the line that it starts in where a complaint may name it. -/
inductive Script
  | nothing
  | simple (line : Nat) (assignments : List (String × List Piece)) (words : List (List Piece))
      (redirections : List Redirection)
  | pipeline (stages : List Script)
  | inverse (body : Script)
  | sequence (first second : Script)
  | both (first second : Script)
  | either (first second : Script)
  | background (body : Script)
  | subshell (body : Script)
  | redirected (line : Nat) (body : Script) (redirections : List Redirection)
  | choice (test yes no : Script)
  /-- Runs the body as long as the success of the test is as given. -/
  | loop (success : Bool) (test body : Script)
  | each (line : Nat) (name : String) (words : List (List Piece)) (body : Script)
  | select (line : Nat) (word : List Piece) (branches : List (List (List Piece) × Script))
  | function (name : String) (body : Script)

end

/-- A word of a script. -/
abbrev Word := List Piece

instance : Inhabited Script := ⟨.nothing⟩

/-- The names of the special commands, which no function can have. -/
def specialNames : List String :=
  [":", ".", "break", "continue", "eval", "exec", "exit", "export", "local", "readonly", "return",
    "set", "shift", "times", "trap", "unset"]

end EntryTree.Command
