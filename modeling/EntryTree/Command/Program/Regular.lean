/-!
# Regular expressions

Expressions of the basic and the extended kind, matched from the left by trying all ways in order
and keeping the longest one. Groups can be referred back to in a replacement.
-/

namespace EntryTree.Command

/-- An expression. -/
inductive Regular
  | empty
  | character (accepted : Char → Bool)
  | lineStart
  | lineEnd
  | group (number : Nat) (body : Regular)
  | back (number : Nat)
  | sequence (first second : Regular)
  | choice (first second : Regular)
  | repeated (body : Regular) (least : Nat) (most : Option Nat)

namespace Regular

/-- What has been read of an expression: the groups so far and what is left. -/
structure Reader where
  extended : Bool
  ignoreCase : Bool
  groups : Nat
  rest : List Char

/-- A reading of a part of an expression, which fails on what is no expression. -/
abbrev Reading := StateT Reader Option

/-- Whether two characters are the same. -/
def same (ignoreCase : Bool) (first second : Char) : Bool :=
  if ignoreCase then first.toLower == second.toLower else first == second

/-- The characters of a class by its name. -/
def inClass (name : String) (c : Char) : Bool :=
  match name with
  | "alpha" => c.isAlpha
  | "digit" => c.isDigit
  | "alnum" => c.isAlphanum
  | "upper" => c.isUpper
  | "lower" => c.isLower
  | "space" => c == ' ' || (9 ≤ c.toNat && c.toNat ≤ 13)
  | "blank" => c == ' ' || c == '\t'
  | "punct" => 33 ≤ c.toNat && c.toNat < 127 && !c.isAlphanum
  | "xdigit" => c.isDigit || ('a' ≤ c.toLower && c.toLower ≤ 'f')
  | _ => false

/-- Reads the members of a set up to its end. -/
def members (ignoreCase : Bool) : Nat → Bool → List Char → Option (List (Char → Bool) × List Char)
  | 0, _, _ => none
  | _, _, [] => none
  | steps + 1, first, c :: rest =>
    if c = ']' && !first then some ([], rest)
    else
      match c, rest with
      | '[', ':' :: more =>
        let name := more.takeWhile (· != ':')
        match more.dropWhile (· != ':') with
        | ':' :: ']' :: behind =>
          (members ignoreCase steps false behind).map fun (tests, rest) =>
            (inClass (String.ofList name) :: tests, rest)
        | _ => none
      | c, '-' :: last :: more =>
        if last = ']' then
          (members ignoreCase steps false rest).map fun (tests, rest) =>
            (same ignoreCase c :: tests, rest)
        else
          (members ignoreCase steps false more).map fun (tests, rest) =>
            ((fun d => c ≤ d && d ≤ last) :: tests, rest)
      | c, rest =>
        (members ignoreCase steps false rest).map fun (tests, rest) =>
          (same ignoreCase c :: tests, rest)

/-- Reads a set behind its opening bracket. -/
def bracket : Reading Regular := fun reader =>
  let (negated, rest) :=
    match reader.rest with
    | '^' :: rest => (true, rest)
    | rest => (false, rest)
  (members reader.ignoreCase (rest.length + 1) true rest).map fun (tests, rest) =>
    (.character fun c => (tests.any (· c)) != negated, { reader with rest })

/-- A character that a backslash stands in front of, outside of its special meanings. -/
def escaped (ignoreCase : Bool) (c : Char) : Regular :=
  let isWord (c : Char) : Bool := c.isAlphanum || c == '_'
  match c with
  | 'w' => .character isWord
  | 'W' => .character fun c => !isWord c
  | 's' => .character (inClass "space")
  | 'S' => .character fun c => !inClass "space" c
  | 'n' => .character (· == '\n')
  | 't' => .character (· == '\t')
  | c =>
    if c.isDigit && c != '0' then .back (c.toNat - '0'.toNat)
    else .character (same ignoreCase c)

/-- Reads bounds of a repetition up to the closing brace. -/
def bounds (extended : Bool) (text : List Char) : Option (Nat × Option Nat × List Char) :=
  let number (text : List Char) : Nat × List Char :=
    ((text.takeWhile Char.isDigit).foldl (fun value c => 10 * value + (c.toNat - '0'.toNat)) 0,
      text.dropWhile Char.isDigit)
  let close (text : List Char) : Option (List Char) :=
    match extended, text with
    | true, '\x7d' :: rest => some rest
    | false, '\\' :: '\x7d' :: rest => some rest
    | _, _ => none
  let (least, rest) := number text
  match rest with
  | ',' :: rest =>
    let (most, behind) := number rest
    let most := if (rest.head?.map Char.isDigit).getD false then some most else none
    (close behind).map fun rest => (least, most, rest)
  | rest => (close rest).map fun rest => (least, some least, rest)

/-- Adds the repetitions that stand behind an expression. -/
def repetitions (body : Regular) : Nat → Reading Regular
  | 0 => return body
  | steps + 1 => do
    let reader ← get
    let again (body : Regular) (rest : List Char) : Reading Regular := do
      set { reader with rest }
      repetitions body steps
    match reader.extended, reader.rest with
    | _, '*' :: rest => again (.repeated body 0 none) rest
    | true, '+' :: rest => again (.repeated body 1 none) rest
    | true, '?' :: rest => again (.repeated body 0 (some 1)) rest
    | false, '\\' :: '+' :: rest => again (.repeated body 1 none) rest
    | false, '\\' :: '?' :: rest => again (.repeated body 0 (some 1)) rest
    | true, '\x7b' :: rest =>
      match bounds true rest with
      | some (least, most, rest) => again (.repeated body least most) rest
      | none => return body
    | false, '\\' :: '\x7b' :: rest => do
      let (least, most, rest) ← (bounds false rest : Option _)
      again (.repeated body least most) rest
    | _, _ => return body

/-- The rest behind a sign for choices, if there is one. -/
def behindBar (reader : Reader) : Option (List Char) :=
  match reader.extended, reader.rest with
  | true, '|' :: rest => some rest
  | false, '\\' :: '|' :: rest => some rest
  | _, _ => none

/-- The rest behind a closing parenthesis, if there is one. -/
def behindClose (reader : Reader) : Option (List Char) :=
  match reader.extended, reader.rest with
  | true, ')' :: rest => some rest
  | false, '\\' :: ')' :: rest => some rest
  | _, _ => none

/-- The rest behind an opening parenthesis, if there is one. -/
def behindOpen (reader : Reader) : Option (List Char) :=
  match reader.extended, reader.rest with
  | true, '(' :: rest => some rest
  | false, '\\' :: '(' :: rest => some rest
  | _, _ => none

/-- Reads choices up to a closing parenthesis or the end. Every step reads a character, opens a
choice or ends one. -/
def choices : Nat → Bool → Regular → Reading Regular
  | 0, _, _ => failure
  | steps + 1, start, read => do
    let reader ← get
    if reader.rest.isEmpty || (behindClose reader).isSome then return read
    else
      match behindBar reader with
      | some rest =>
        set { reader with rest }
        return .choice read (← choices steps true .empty)
      | none =>
        let atom ←
          match behindOpen reader with
          | some rest => do
            let number := reader.groups + 1
            set { reader with rest, groups := number }
            let body ← choices steps true .empty
            let rest ← (behindClose (← get) : Option _)
            modify fun reader => { reader with rest }
            pure (.group number body)
          | none => do
            match reader.rest with
            | '.' :: rest =>
              set { reader with rest }
              pure (.character fun _ => true)
            | '[' :: rest =>
              set { reader with rest }
              bracket
            | '^' :: rest =>
              set { reader with rest }
              pure (if start || reader.extended then .lineStart else .character (· == '^'))
            | '$' :: rest =>
              set { reader with rest }
              let next := { reader with rest }
              let atEnd := rest.isEmpty || (behindClose next).isSome || (behindBar next).isSome
              pure (if reader.extended || atEnd then .lineEnd else .character (· == '$'))
            | '\\' :: c :: rest =>
              set { reader with rest }
              pure (escaped reader.ignoreCase c)
            | c :: rest =>
              set { reader with rest }
              pure (.character (same reader.ignoreCase c))
            | [] => failure
        let anchored := start && (atom matches .lineStart)
        let atom ← if anchored then pure atom else repetitions atom reader.rest.length
        choices steps anchored (.sequence read atom)

/-- Reads an expression. -/
def read? (extended ignoreCase : Bool) (text : String) : Option Regular := do
  let (regular, reader) ←
    (choices (2 * text.length + 2) true .empty).run ⟨extended, ignoreCase, 0, text.toList⟩
  if reader.rest.isEmpty then some regular else none

/-- A place in a line: what is in front of it, newest first, what is behind it, and the groups
that were matched. -/
structure Place where
  before : List Char
  behind : List Char
  groups : List (Nat × List Char)

/-- All places that an expression leads to from a place, the preferred ones first. -/
def places (steps : Nat) (place : Place) : Regular → List Place
  | .empty => [place]
  | .character accepted =>
    match place.behind with
    | c :: behind => if accepted c then [{ place with before := c :: place.before, behind }] else []
    | [] => []
  | .lineStart => if place.before.isEmpty then [place] else []
  | .lineEnd => if place.behind.isEmpty then [place] else []
  | .group number body =>
    (places steps place body).map fun after =>
      let text := place.behind.take (place.behind.length - after.behind.length)
      { after with groups := (number, text) :: after.groups }
  | .back number =>
    let text := (place.groups.lookup number).getD []
    if text.isPrefixOf place.behind then
      [{ place with
        before := text.reverse ++ place.before, behind := place.behind.drop text.length }]
    else []
  | .sequence first second =>
    (places steps place first).flatMap fun place => places steps place second
  | .choice first second => places steps place first ++ places steps place second
  | .repeated body least most =>
    rounds (fun place => places steps place body) least most steps place
where
  rounds (body : Place → List Place) (least : Nat) (most : Option Nat) : Nat → Place → List Place
    | 0, place => [place]
    | steps + 1, place =>
      let further :=
        if most = some 0 then []
        else
          (body place).flatMap fun after =>
            if least = 0 && after.behind.length = place.behind.length then []
            else rounds body (least - 1) (most.map (· - 1)) steps after
      if least = 0 then further ++ [place] else further

/-- The longest match that begins at a place. -/
def matchAt? (regular : Regular) (place : Place) : Option Place :=
  let found := places (place.behind.length + 1) { place with groups := [] } regular
  found.foldl (fun best place =>
    match best with
    | some best => if place.behind.length < best.behind.length then some place else some best
    | none => some place) none

/-- The first match at a place or behind it: where it begins and where it ends. -/
def search? (regular : Regular) : Nat → Place → Option (Place × Place)
  | 0, _ => none
  | steps + 1, place =>
    match matchAt? regular place with
    | some after => some (place, after)
    | none =>
      match place.behind with
      | c :: behind => search? regular steps { place with before := c :: place.before, behind }
      | [] => none

/-- The first match in a line. -/
def find? (regular : Regular) (line : String) : Option (Place × Place) :=
  search? regular (line.length + 1) ⟨[], line.toList, []⟩

/-- The text between two places. -/
def between (start stop : Place) : String :=
  String.ofList (start.behind.take (start.behind.length - stop.behind.length))

end Regular
end EntryTree.Command
