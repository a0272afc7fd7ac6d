import EntryTree.Command.Program.Numeral

/-!
# Arithmetic of scripts

Integer expressions over the parameters of a shell, with assignments. Integers have 64 bits and
wrap around. What a condition leaves out is read but neither evaluated nor assigned.
-/

namespace EntryTree.Command

/-- Why an expression has no value. -/
inductive ArithmeticFault
  /-- The expression is wrong. -/
  | expression (message : String)
  /-- The value of a parameter is no number. -/
  | illegalNumber (text : String)

namespace Arithmetic

/-- A part of an expression. -/
inductive Token
  | number (value : Int)
  | name (text : String)
  | operator (text : String)
  | bad
  | ending

/-- An expression that is being evaluated: the part that is looked at, what is behind it, and the
values that were assigned, newest first. -/
structure State where
  token : Token
  rest : List Char
  assigned : List (String × Int)

/-- A step of an evaluation. -/
abbrev Evaluation := StateT State (Except ArithmeticFault)

/-- All operators, of which one that begins like another comes after it. -/
def operators : List String :=
  ["<<=", ">>=", "||", "&&", "==", "!=", "<=", ">=", "<<", ">>", "*=", "/=", "%=", "+=", "-=", "&=",
    "^=", "|=", "=", "|", "^", "&", "<", ">", "+", "-", "*", "/", "%", "!", "~", "(", ")", "?", ":"]

/-- The operators between two operands by level, the loosest first. -/
def levels : List (List String) :=
  [["||"], ["&&"], ["|"], ["^"], ["&"], ["==", "!="], ["<", ">", "<=", ">="], ["<<", ">>"],
    ["+", "-"], ["*", "/", "%"]]

/-- Wraps an integer around. -/
def wrap (value : Int) : Int :=
  value.bmod 18446744073709551616

/-- Splits the first part off an expression. -/
def lex (text : List Char) : Token × List Char :=
  let text := text.dropWhile fun c => c == ' ' || c == '\t' || c == '\n'
  match text with
  | [] => (.ending, [])
  | c :: _ =>
    if c.isDigit then
      let numeral := Numeral.integer text
      (.number numeral.value, numeral.rest)
    else if c.isAlpha || c == '_' then
      let isPart (c : Char) : Bool := c.isAlphanum || c == '_'
      (.name (String.ofList (text.takeWhile isPart)), text.dropWhile isPart)
    else
      match operators.find? (·.toList.isPrefixOf text) with
      | some operator => (.operator operator, text.drop operator.length)
      | none => (.bad, text)

/-- Goes on to the next part. -/
def advance : Evaluation Unit :=
  modify fun state =>
    let (token, rest) := lex state.rest
    { state with token, rest }

/-- Gives up. -/
def refuse {α : Type} (message : String) : Evaluation α :=
  throw (.expression message)

/-- The operator that is looked at. -/
def operator? : Evaluation (Option String) := do
  match (← get).token with
  | .operator text => return some text
  | _ => return none

/-- The value of a text. -/
def valueOf (text : String) : Except ArithmeticFault Int :=
  let numeral := Numeral.integer text.toList
  if text.isEmpty then .ok 0
  else if numeral.rest.all Numeral.isSpace && numeral.rest != text.toList then .ok numeral.value
  else .error (.illegalNumber text)

/-- The value of a name. -/
def lookup (value : String → String) (name : String) : Evaluation Int := do
  match (← get).assigned.lookup name with
  | some value => return value
  | none => valueOf (value name)

/-- A truth as a number. -/
def truth (value : Bool) : Int :=
  if value then 1 else 0

/-- An integer as a word of 64 bits. -/
def word (value : Int) : BitVec 64 :=
  BitVec.ofInt 64 value

/-- Applies an operator. -/
def apply (operator : String) (first second : Int) : Evaluation Int := do
  match operator with
  | "*" => return wrap (first * second)
  | "/" => if second = 0 then refuse "division by zero" else return wrap (first.tdiv second)
  | "%" => if second = 0 then refuse "division by zero" else return first.tmod second
  | "+" => return wrap (first + second)
  | "-" => return wrap (first - second)
  | "<<" => return (word first <<< (word second).toNat % 64).toInt
  | ">>" => return first >>> ((word second).toNat % 64)
  | "<" => return truth (first < second)
  | ">" => return truth (second < first)
  | "<=" => return truth (first ≤ second)
  | ">=" => return truth (second ≤ first)
  | "==" => return truth (first = second)
  | "!=" => return truth (first ≠ second)
  | "&" => return (word first &&& word second).toInt
  | "^" => return (word first ^^^ word second).toInt
  | "|" => return (word first ||| word second).toInt
  | _ => return second

/-- The operator that an assignment applies, if an operator is an assignment. -/
def assigning? (operator : String) : Option String :=
  if operator = "=" then some ""
  else if ["<<=", ">>=", "*=", "/=", "%=", "+=", "-=", "&=", "^=", "|="].contains operator then
    some (String.ofList operator.toList.dropLast)
  else none

/-- What is evaluated. -/
inductive Grade
  | assignment
  | condition
  /-- Operators of the levels that are given. -/
  | binary (levels : List (List String))
  | primary

/-- Evaluates a part of an expression; `skipped` if a condition leaves it out. Every step goes down
a grade or takes a part. -/
def evaluate (value : String → String) : Nat → Grade → Bool → Evaluation Int
  | 0, _, _ => refuse "expecting primary"
  | steps + 1, .assignment, skipped => do
    let state ← get
    match state.token with
    | .name name =>
      advance
      match (← operator?).bind assigning? with
      | some operator =>
        advance
        let result ← evaluate value steps .assignment skipped
        if skipped then return result
        else
          let result ←
            if operator.isEmpty then pure result
            else apply operator (← lookup value name) result
          modify fun state => { state with assigned := (name, result) :: state.assigned }
          return result
      | none =>
        set state
        evaluate value steps .condition skipped
    | _ => evaluate value steps .condition skipped
  | steps + 1, .condition, skipped => do
    let test ← evaluate value steps (.binary levels) skipped
    if (← operator?) = some "?" then
      advance
      let yes ← evaluate value steps .assignment (skipped || test = 0)
      if (← operator?) ≠ some ":" then refuse "expecting ':'"
      advance
      let no ← evaluate value steps .condition (skipped || test ≠ 0)
      return if test ≠ 0 then yes else no
    else return test
  | steps + 1, .binary [], skipped => evaluate value steps .primary skipped
  | steps + 1, .binary (level :: tighter), skipped => do
    let first ← evaluate value steps (.binary tighter) skipped
    rounds steps (level :: tighter) skipped first
  | steps + 1, .primary, skipped => do
    match (← get).token with
    | .operator "(" =>
      advance
      let result ← evaluate value steps .assignment skipped
      if (← operator?) ≠ some ")" then refuse "expecting ')'"
      advance
      return result
    | .operator "+" =>
      advance
      evaluate value steps .primary skipped
    | .operator "-" =>
      advance
      return wrap (-(← evaluate value steps .primary skipped))
    | .operator "!" =>
      advance
      return truth ((← evaluate value steps .primary skipped) = 0)
    | .operator "~" =>
      advance
      return -(← evaluate value steps .primary skipped) - 1
    | .number number =>
      advance
      return number
    | .name name =>
      advance
      if skipped then return 0 else lookup value name
    | _ => refuse "expecting primary"
where
  /-- Goes on with the operators of a level behind an operand. -/
  rounds : Nat → List (List String) → Bool → Int → Evaluation Int
    | 0, _, _, first => return first
    | _, [], _, first => return first
    | steps + 1, level :: tighter, skipped, first => do
      match ← operator? with
      | some operator =>
        if level.contains operator then
          advance
          let idle :=
            (operator = "||" && first ≠ 0) || (operator = "&&" && first = 0)
          let second ← evaluate value steps (.binary tighter) (skipped || idle)
          let result ←
            if operator = "||" then pure (truth (first ≠ 0 || second ≠ 0))
            else if operator = "&&" then pure (truth (first ≠ 0 && second ≠ 0))
            else if skipped then pure 0
            else apply operator first second
          rounds steps (level :: tighter) skipped result
        else return first
      | none => return first

/-- The value of an expression and the values that it assigns, in the order of the assignments. -/
def run (value : String → String) (text : String) :
    Except ArithmeticFault (Int × List (String × Int)) := do
  let (token, rest) := lex text.toList
  let steps := 20 * text.length + 40
  let (result, state) ← (evaluate value steps .assignment false).run ⟨token, rest, []⟩
  match state.token with
  | .ending => return (result, state.assigned.reverse)
  | _ => throw (.expression "expecting EOF")

end Arithmetic
end EntryTree.Command
