import EntryTree.Command.Program.Invocation
import EntryTree.Command.Program.Numeral

/-!
# Conditions

The expressions of `test`: comparisons of texts and numbers, properties of files, and what `!`,
`-a`, `-o` and parentheses make of them. A word that looks like an operator may also be an operand;
which one it is depends on how many words stand behind it.
-/

namespace EntryTree.Command

/-- Why an expression has no value. -/
inductive ConditionFault
  | missingBracket
  | notInteger (text : String)
  | argumentExpected (operator : String)
  /-- The expression has ended behind a word, and there is another one. -/
  | unexpected (last next : String)
  | closingExpected

/-- How an operator takes its operands. -/
inductive Arity
  | unary
  | binary
  | junction
  deriving DecidableEq

namespace Condition

/-- The operators that look at one operand. -/
def unaryOperators : List String :=
  ["-r", "-w", "-x", "-e", "-f", "-d", "-c", "-b", "-p", "-u", "-g", "-k", "-s", "-t", "-z", "-n",
    "-h", "-O", "-G", "-L", "-S"]

/-- The operators between two operands. -/
def binaryOperators : List String :=
  ["=", "!=", "<", ">", "-eq", "-ne", "-ge", "-gt", "-le", "-lt", "-nt", "-ot", "-ef"]

/-- How a word takes operands, if it is an operator. -/
def arity? (word : String) : Option Arity :=
  if unaryOperators.contains word then some .unary
  else if binaryOperators.contains word then some .binary
  else if ["!", "-a", "-o", "(", ")"].contains word then some .junction
  else none

/-- The operator that a place in an expression begins with, if it is not an operand. -/
def operator? : List String → Option String
  | [] => none
  | word :: rest =>
    match arity? word, rest with
    | some .unary, [] => none
    | some .unary, [_] => some word
    | some .unary, next :: _ :: _ => if arity? next = some .binary then none else some word
    | some _, [] => if word = "(" then none else some word
    | some _, _ => some word
    | none, _ => none

/-- Reads an integer. -/
def integer (text : String) : Except ConditionFault Int :=
  let numeral := Numeral.splitSign text.toList
  let digits := numeral.2.takeWhile Char.isDigit
  let behind := numeral.2.dropWhile Char.isDigit
  let size : Int := (Numeral.digits 10 0 digits).1
  let value := if numeral.1 then -size else size
  if digits.isEmpty || !behind.all Numeral.isSpace || value < Numeral.least ||
      Numeral.greatest < value then .error (.notInteger text)
  else .ok value

/-- Whether a property holds of a file or a text. -/
def unary (machine : Machine) (directory operator operand : String) : Bool :=
  let path := Machine.resolve directory operand
  let kind := if operand.isEmpty then none else machine.kind? path
  match operator with
  | "-z" => operand.isEmpty
  | "-n" => !operand.isEmpty
  | "-t" => false
  | "-e" => kind.isSome
  | "-r" => kind.isSome
  | "-w" => kind.isSome
  | "-O" => kind.isSome
  | "-G" => kind.isSome
  | "-d" => kind = some .directory
  | "-f" => kind = some .file || kind = some .program
  | "-x" => kind = some .directory || kind = some .program
  | "-c" => kind = some .device
  | "-s" =>
    match kind with
    | some .file => !(machine.files.lookup path = some "")
    | some .device => false
    | some _ => true
    | none => false
  | _ => false

/-- Whether a comparison holds. -/
def binary (machine : Machine) (directory first operator second : String) :
    Except ConditionFault Bool := do
  let numbers (holds : Int → Int → Bool) : Except ConditionFault Bool := do
    let first ← integer first
    let second ← integer second
    return holds first second
  let kind (operand : String) : Option Machine.NodeKind :=
    machine.kind? (Machine.resolve directory operand)
  match operator with
  | "=" => return first = second
  | "!=" => return first != second
  | "<" => return first < second
  | ">" => return second < first
  | "-eq" => numbers (· == ·)
  | "-ne" => numbers (· != ·)
  | "-lt" => numbers (· < ·)
  | "-le" => numbers (· ≤ ·)
  | "-gt" => numbers (· > ·)
  | "-ge" => numbers (· ≥ ·)
  | "-nt" => return (kind first).isSome && (kind second).isNone
  | "-ot" => return (kind first).isNone && (kind second).isSome
  | _ =>
    return (kind first).isSome && Machine.resolve directory first = Machine.resolve directory second

/-- What evaluates the operands of an expression. -/
structure Context where
  machine : Machine
  directory : String

/-- The level of a part of an expression. -/
inductive Level
  | disjunction
  | conjunction
  | negation

/-- Evaluates the part of an expression that a place begins with; what is left behind it. Every
step goes down a level or takes a word. -/
def evaluate (context : Context) : Nat → Level → List String →
    Except ConditionFault (Bool × List String)
  | 0, _, words => .ok (false, words)
  | steps + 1, .disjunction, words => do
    let (first, rest) ← evaluate context steps .conjunction words
    match operator? rest, rest with
    | some "-o", _ :: behind =>
      let (second, rest) ← evaluate context steps .disjunction behind
      return (first || second, rest)
    | _, _ => return (first, rest)
  | steps + 1, .conjunction, words => do
    let (first, rest) ← evaluate context steps .negation words
    match operator? rest, rest with
    | some "-a", _ :: behind =>
      let (second, rest) ← evaluate context steps .conjunction behind
      return (first && second, rest)
    | _, _ => return (first, rest)
  | steps + 1, .negation, words => do
    match operator? words, words with
    | _, [] => return (false, [])
    | some "!", _ :: rest =>
      let (value, rest) ← evaluate context steps .negation rest
      return (!value, rest)
    | some "(", _ :: rest =>
      if operator? rest = some ")" then return (false, rest.tail)
      else
        let (value, rest) ← evaluate context steps .disjunction rest
        match rest with
        | ")" :: rest => return (value, rest)
        | _ => throw .closingExpected
    | some operator, _ :: rest =>
      if arity? operator = some .unary then
        match rest with
        | operand :: rest => return (unary context.machine context.directory operator operand, rest)
        | [] => throw (.argumentExpected operator)
      else operand context operator rest
    | none, word :: rest => operand context word rest
where
  operand (context : Context) (word : String) (rest : List String) :
      Except ConditionFault (Bool × List String) := do
    match operator? rest, rest with
    | some operator, _ :: behind =>
      if arity? operator = some .binary then
        match behind with
        | second :: rest =>
          return (← binary context.machine context.directory word operator second, rest)
        | [] => throw (.argumentExpected operator)
      else return (!word.isEmpty, rest)
    | _, _ => return (!word.isEmpty, rest)

/-- Evaluates an expression. Three and four words are told apart by what stands between or around
them. -/
def holds (context : Context) : Nat → List String → Except ConditionFault Bool
  | 0, _ => .ok false
  | _, [] => .ok false
  | steps + 1, words => do
    let full (words : List String) : Except ConditionFault Bool := do
      let (value, rest) ← evaluate context (4 * words.length + 8) .disjunction words
      match rest with
      | [] => return value
      | next :: _ =>
        throw (.unexpected ((words.take (words.length - rest.length)).getLast?.getD next) next)
    let inner : Option (List String) :=
      if words.head? = some "(" && words.getLast? = some ")" then some words.tail.dropLast else none
    match words with
    | [first, operator, second] =>
      if arity? operator = some .binary then
        binary context.machine context.directory first operator second
      else
        match inner with
        | some words => full words
        | none =>
          if first = "!" then return !(← holds context steps [operator, second]) else full words
    | [first, second, third, fourth] =>
      match inner with
      | some words => full words
      | none =>
        if first = "!" then return !(← holds context steps [second, third, fourth]) else full words
    | words => full words

/-- Evaluates the arguments of a command that may be called by a bracket. -/
def ofArguments (context : Context) (bracket : Bool) (arguments : List String) :
    Except ConditionFault Bool :=
  if bracket then
    if arguments.getLast? = some "]" then holds context 8 arguments.dropLast
    else .error .missingBracket
  else holds context 8 arguments

end Condition

/-- `test`: whether an expression holds. -/
def test : Program := fun invocation => do
  let bracket := invocation.shortName = "["
  let words := if bracket then invocation.arguments.dropLast else invocation.arguments
  let misplaced? : Option String :=
    match words with
    | [first, second] =>
      if first = "!" || Condition.arity? first = some .unary then none
      else if first.length = 2 && first.startsWith "-" then
        some s!"'{first}': unary operator expected"
      else some s!"missing argument after '{second}'"
    | [first, operator, last] =>
      let isInner := first = "!" || (first = "(" && last = ")")
      if isInner || (Condition.arity? operator).isSome then none
      else some s!"'{operator}': binary operator expected"
    | _ => none
  match Condition.ofArguments ⟨← get, invocation.directory⟩ bracket invocation.arguments with
  | .ok true => return .exited 0
  | .ok false => return .exited 1
  | .error fault =>
    let message :=
      match fault with
      | .missingBracket => "missing ']'"
      | .notInteger text => s!"invalid integer '{text}'"
      | .argumentExpected operator => s!"missing argument after '{operator}'"
      | .unexpected _ next => misplaced?.getD s!"extra argument '{next}'"
      | .closingExpected => "')' expected"
    invocation.fail message 2

end EntryTree.Command
