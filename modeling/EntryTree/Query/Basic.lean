import EntryTree.Expression.Reader
import EntryTree.Query.Clause

/-!
# Queries

A query is an expression over the primaries of entries, compiled once against a reference instant.
Compiling can fail, with the offending token, or panic; answering cannot.
-/

namespace EntryTree

/-- A compiled query. -/
structure Query where
  predicate : Predicate Id Snapshot
  /-- The instant that times are measured from. -/
  reference : Instant
  /-- Whether some part of the query looks at metadata. -/
  needsMetadata : Bool

namespace Query

/-- Compiles a token list. Without tokens every entry matches. -/
def compile (registry : ActionRegistry) (reference : Instant) (tokens : List String) :
    Except (Halt ParseError) Query := do
  let expression ← Expression.read? (Clause.table registry reference).primary tokens
  let clauses := (expression.map Expression.meanings).getD []
  .ok ⟨Expression.predicate? Clause.test expression, reference, clauses.any Clause.usesMetadata⟩

/-- Whether a snapshot satisfies a query. -/
def accepts (query : Query) (snapshot : Snapshot) : Bool :=
  query.predicate.holds snapshot

end Query
end EntryTree
