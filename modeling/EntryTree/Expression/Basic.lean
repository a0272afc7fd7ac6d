import EntryTree.Predicate

/-!
# Boolean expressions over primaries

An expression is the reading of a token list: primaries joined by negation, conjunction,
disjunction and parentheses. It keeps the words it was written with, so that its tokens can be
listed again; its meaning is the predicate obtained by interpreting the primaries.

```
disjunction := conjunction (("-o" | "-or") conjunction)*
conjunction := operand (["-a" | "-and"] operand)*
operand     := ("!" | "-not") operand | "(" disjunction ")" | primary
```
-/

namespace EntryTree

variable {m : Type → Type} {α β : Type}

/-- What a token that belongs to the expression language itself does. -/
inductive Mark
  | negation
  | opening
  | closing
  | disjunction
  | conjunction
  deriving DecidableEq, Repr

/-- The mark that a token is, if it is one. -/
def Mark.ofToken? (token : String) : Option Mark :=
  if token = "!" || token = "-not" then some .negation
  else if token = "(" then some .opening
  else if token = ")" then some .closing
  else if token = "-o" || token = "-or" then some .disjunction
  else if token = "-a" || token = "-and" then some .conjunction
  else none

/-- A token list read as a boolean combination of primaries with meanings in `β`. -/
inductive Expression (β : Type)
  /-- A primary and the tokens it took. -/
  | primary (words : List String) (meaning : β)
  | negation (word : String) (operand : Expression β)
  | group (inner : Expression β)
  /-- Two operands side by side, perhaps with a word between them. -/
  | conjunction (left : Expression β) (word : Option String) (right : Expression β)
  | disjunction (left : Expression β) (word : String) (right : Expression β)

namespace Expression

/-- The tokens of an expression in written order. -/
def tokens : Expression β → List String
  | .primary words _ => words
  | .negation word operand => word :: operand.tokens
  | .group inner => "(" :: inner.tokens ++ [")"]
  | .conjunction left word right => left.tokens ++ word.toList ++ right.tokens
  | .disjunction left word right => left.tokens ++ word :: right.tokens

/-- The meanings of the primaries in written order. -/
def meanings : Expression β → List β
  | .primary _ meaning => [meaning]
  | .negation _ operand => operand.meanings
  | .group inner => inner.meanings
  | .conjunction left _ right => left.meanings ++ right.meanings
  | .disjunction left _ right => left.meanings ++ right.meanings

/-- The predicate of an expression whose primaries mean what `interpret` says. -/
def predicate (interpret : β → Predicate m α) : Expression β → Predicate m α
  | .primary _ meaning => interpret meaning
  | .negation _ operand => .not (operand.predicate interpret)
  | .group inner => inner.predicate interpret
  | .conjunction left _ right => (left.predicate interpret).and (right.predicate interpret)
  | .disjunction left _ right => (left.predicate interpret).or (right.predicate interpret)

end Expression
end EntryTree
