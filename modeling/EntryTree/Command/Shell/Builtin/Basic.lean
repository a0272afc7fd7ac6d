import EntryTree.Command.Shell.Expansion

/-!
# Commands of the shell itself

A builtin command gets its arguments and brings a status. Most of them read their options in one
and the same way. A mistake ends the shell if the command is one of the special ones, and brings
the status two otherwise.
-/

namespace EntryTree.Command

/-- What a builtin command does with its arguments, and its status. -/
abbrev Builtin := Level → Mode → List String → Work Nat

namespace Builtin

open Shell

/-- Writes a text to the standard output, and remembers whether that failed. -/
def say (text : String) : Work Unit := do
  if !text.isEmpty then
    match ← write 1 text with
    | .written => return
    | _ => modify fun shell => { shell with broken := true }

/-- Reads an argument as a number. -/
def number (text : String) : Work Nat := do
  let digits := text.toList
  let value := Numeral.digits 10 0 digits
  if digits.isEmpty || !value.2.isEmpty || value.1 > 2147483647 then
    abort s!"Illegal number: {text}"
  else return value.1

/-- Reads the letters of one argument, given the arguments behind it: the options and the arguments
that are left. Letters of `valued` take a value. -/
def letters (flags valued : String) (rest : List String) :
    List Char → Work (List (Char × String) × List String)
  | [] => return ([], rest)
  | c :: more => do
    if valued.contains c then
      if !more.isEmpty then return ([(c, String.ofList more)], rest)
      else
        match rest with
        | value :: rest => return ([(c, value)], rest)
        | [] => abort s!"No arg for -{c} option"
    else if flags.contains c then
      let (options, rest) ← letters flags valued rest more
      return ((c, "") :: options, rest)
    else abort s!"Illegal option -{c}"

/-- Reads the options among at most `steps` arguments: the options, and the arguments that are
left. -/
def optionsWithin (flags valued : String) :
    Nat → List String → Work (List (Char × String) × List String)
  | 0, arguments => return ([], arguments)
  | steps + 1, arguments => do
    match arguments with
    | [] => return ([], [])
    | argument :: rest =>
      match argument.toList with
      | ['-', '-'] => return ([], rest)
      | '-' :: c :: more =>
        let (options, rest) ← letters flags valued rest (c :: more)
        let (others, rest) ← optionsWithin flags valued steps rest
        return (options ++ others, rest)
      | _ => return ([], arguments)

/-- Reads options: the options, and the arguments that are left. -/
def options (flags valued : String) (arguments : List String) :
    Work (List (Char × String) × List String) :=
  optionsWithin flags valued arguments.length arguments

/-- The apostrophe, which ends a quoted text and is quoted by itself. -/
def apostrophe : Char := '\x27'

/-- Quotes a text of at most `steps` characters: texts without apostrophes and runs of apostrophes
take turns. -/
def quotedWithin : Nat → List Char → List Char
  | 0, _ => []
  | steps + 1, text =>
    let plain := text.takeWhile (· != apostrophe)
    let behind := text.drop plain.length
    let marks := behind.takeWhile (· == apostrophe)
    let rest := behind.drop marks.length
    apostrophe :: plain ++ [apostrophe] ++
      (if marks.isEmpty then [] else '"' :: marks ++ ['"']) ++
      (if rest.isEmpty then [] else quotedWithin steps rest)

/-- A text in quotes, which the shell would read as the text. -/
def quoted (text : String) : String :=
  String.ofList (quotedWithin (text.length + 1) text.toList)

/-- The lines that list variables: a word, the name, and the value in quotes. -/
def listing (word : String) (bindings : List (String × Variable)) : String :=
  let sorted := bindings.mergeSort fun first second => first.1 ≤ second.1
  String.join (sorted.map fun (name, variable_) =>
    match variable_.value with
    | some value => s!"{word}{name}={quoted value}\n"
    | none => s!"{word}{name}\n")

end Builtin
end EntryTree.Command
