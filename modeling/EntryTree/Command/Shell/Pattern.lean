/-!
# Patterns of shells

Patterns match whole texts: an asterisk any characters, a question mark one, and a set in brackets
one of its members. A character of a pattern may be meant literally, as quoted ones are.
-/

namespace EntryTree.Command

/-- A character of a pattern, and whether it may have a meaning of its own. -/
structure PatternCharacter where
  character : Char
  active : Bool

namespace ShellPattern

/-- A part of a pattern. -/
inductive Item
  | literal (c : Char)
  | anyOne
  | anyMany
  | member (accepted : Char → Bool)

/-- The characters of a class by its name. -/
def inClass (name : String) (c : Char) : Bool :=
  match name with
  | "alpha" => c.isAlpha
  | "digit" => c.isDigit
  | "alnum" => c.isAlphanum
  | "upper" => c.isUpper
  | "lower" => c.isLower
  | "space" => c == ' ' || (9 ≤ c.toNat && c.toNat ≤ 13)
  | "blank" => c == ' ' || c == '\t'
  | "punct" => 33 ≤ c.toNat && c.toNat < 127 && !c.isAlphanum
  | "xdigit" => c.isDigit || ('a' ≤ c.toLower && c.toLower ≤ 'f')
  | _ => false

/-- Reads the members of a set up to its end, if it has one. -/
def members : Nat → Bool → List PatternCharacter →
    Option (List (Char → Bool) × List PatternCharacter)
  | 0, _, _ => none
  | _, _, [] => none
  | steps + 1, first, c :: rest =>
    if c.character = ']' && c.active && !first then some ([], rest)
    else
      let characters := rest.map (·.character)
      let className := characters.tail.takeWhile (· != ':')
      let behindName := characters.tail.drop className.length
      if c.character = '[' && c.active && characters.head? = some ':' &&
          behindName.take 2 = [':', ']'] then
        (members steps false (rest.drop (className.length + 3))).map fun (tests, rest) =>
          (inClass (String.ofList className) :: tests, rest)
      else
        match rest with
        | hyphen :: last :: behind =>
          if hyphen.character = '-' && hyphen.active && !(last.character = ']' && last.active) then
            (members steps false behind).map fun (tests, rest) =>
              ((fun d => c.character ≤ d && d ≤ last.character) :: tests, rest)
          else single steps c.character rest
        | rest => single steps c.character rest
where
  single (steps : Nat) (c : Char) (rest : List PatternCharacter) :
      Option (List (Char → Bool) × List PatternCharacter) :=
    (members steps false rest).map fun (tests, rest) => ((· == c) :: tests, rest)

/-- Reads a pattern. Every step takes a character at least. -/
def items : Nat → List PatternCharacter → List Item
  | 0, _ => []
  | _, [] => []
  | steps + 1, c :: rest =>
    if !c.active then .literal c.character :: items steps rest
    else if c.character = '*' then .anyMany :: items steps rest
    else if c.character = '?' then .anyOne :: items steps rest
    else if c.character = '\\' then
      match rest with
      | next :: rest => .literal next.character :: items steps rest
      | [] => [.literal '\\']
    else if c.character = '[' then
      let (negated, inside) :=
        match rest with
        | mark :: inside => if mark.character = '!' then (true, inside) else (false, rest)
        | [] => (false, [])
      match members (inside.length + 1) true inside with
      | some (tests, behind) =>
        .member (fun d => (tests.any (· d)) != negated) :: items steps behind
      | none => .literal '[' :: items steps rest
    else .literal c.character :: items steps rest

/-- Whether a text matches the parts of a pattern. -/
def matchItems : List Item → List Char → Bool
  | [], text => text.isEmpty
  | .literal c :: rest, d :: text => c == d && matchItems rest text
  | .anyOne :: rest, _ :: text => matchItems rest text
  | .member accepted :: rest, d :: text => accepted d && matchItems rest text
  | .anyMany :: rest, text => (suffixes text).any (matchItems rest)
  | _, _ => false
where
  suffixes : List Char → List (List Char)
    | [] => [[]]
    | c :: text => (c :: text) :: suffixes text

end ShellPattern

/-- Whether a text matches a pattern. -/
def matchesPattern (pattern : List PatternCharacter) (text : String) : Bool :=
  ShellPattern.matchItems (ShellPattern.items pattern.length pattern) text.toList

/-- A text without the shortest or longest part at one end that matches a pattern. -/
def trimPattern (pattern : List PatternCharacter) (atEnd longest : Bool) (text : String) : String :=
  let items := ShellPattern.items pattern.length pattern
  let characters := text.toList
  let lengths := List.range (characters.length + 1)
  let lengths := if longest then lengths.reverse else lengths
  let count := characters.length
  let taken := lengths.find? fun length =>
    ShellPattern.matchItems items
      (if atEnd then characters.drop (count - length) else characters.take length)
  match taken with
  | some length =>
    String.ofList (if atEnd then characters.take (count - length) else characters.drop length)
  | none => text

end EntryTree.Command
