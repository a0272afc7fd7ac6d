import EntryTree.Json.Basic
import EntryTree.Text.Blank

/-!
# Key paths

A key path such as `.labels.app` leads through nested objects to a value: each key is written
behind a point, and is neither empty nor contains points or blanks. Only objects can be passed
through on the way; what stands at the end may be anything.
-/

namespace EntryTree.KeyPath

/-- The parts of a text between the points in it. -/
def parts : List Char → List (List Char)
  | [] => [[]]
  | c :: rest =>
    if c = '.' then [] :: parts rest
    else
      match parts rest with
      | [] => [[c]]
      | first :: others => (c :: first) :: others

/-- Whether a text can be a key of a path. -/
def isKey (key : List Char) : Bool :=
  !key.isEmpty && key.all fun c => c != '.' && !Text.isBlank c

/-- Reads a key path as its keys. -/
def read? (token : String) : Option (List String) :=
  match token.toList with
  | '.' :: rest =>
    let keys := parts rest
    if keys.all isKey then some (keys.map String.ofList) else none
  | _ => none

/-- The value that keys lead to. -/
def lookup? (fields : Json.Fields) : List String → Option Json
  | [] => none
  | [key] => fields.lookup key
  | key :: keys => do
      let inner ← (← fields.lookup key).fields?
      lookup? inner keys

end EntryTree.KeyPath
