import EntryTree.Predicate
import EntryTree.Expression.Primary
import EntryTree.Query.Comparison
import EntryTree.Query.Glob.Matching
import EntryTree.Query.Glob.Reader
import EntryTree.Query.KeyPath
import EntryTree.Query.Snapshot
import EntryTree.Query.TimeTest

/-!
# The primaries of queries

What a query can ask of an entry: its name and path by pattern, the actions it serves, its size,
its timestamps, and values inside its metadata. The meaning of a primary is a clause: a predicate
on snapshots and whether the predicate looks at metadata.
-/

namespace EntryTree

open Text

/-- The meaning of a primary of a query. -/
structure Clause where
  test : Predicate Id Snapshot
  /-- Whether the test looks at metadata. -/
  usesMetadata : Bool

namespace Clause

/-- A clause that does not look at metadata. -/
def plain (test : Predicate Id Snapshot) : Clause :=
  ⟨test, false⟩

/-- `-true` and `-false`: one answer for every entry. -/
def constant (answer : Bool) : Primary Clause := fun tokens =>
  .ok (.plain (.always answer), tokens)

/-- `-name` and `-path`: a text of the snapshot matches a pattern. -/
def glob (text : Snapshot → String) : Primary Clause
  | [] => .error (.mismatch "expected a pattern")
  | token :: rest => do
      let pattern ← Halt.lift (Glob.Pattern.ofToken token)
      .ok (.plain (.atomic fun snapshot => pattern.matches (text snapshot)), rest)

/-- `-action`: the entry serves a registered action. -/
def action (registry : ActionRegistry) : Primary Clause
  | [] => .error (.mismatch "expected an action name")
  | name :: rest =>
    match registry.find? name with
    | none =>
      let known := ", ".intercalate registry.keys
      .error (.malformed s!"unknown action {quoted name}; expected one of {known}")
    | some wanted =>
      .ok (.plain (.atomic fun snapshot => snapshot.actions.contains wanted.name), rest)

/-- `-size`: a comparison with the size, which an entry of unknown size fails. -/
def size : Primary Clause :=
  Primary.map sizeComparison fun comparison =>
    .plain (comparison.lift fun snapshot => snapshot.attributes.size)

/-- `-atime`, `-mtime`, `-ctime` and `-crtime`: a temporal test of a timestamp. -/
def time (reference : Instant) (timestamp : Attributes → Option Instant) : Primary Clause :=
  Primary.map (TimeTest.primary reference some) fun test =>
    .plain (test.lift fun snapshot => timestamp snapshot.attributes)

/-- A test that only one JSON value passes, if a token is the word for it. -/
def literal : Primary (Predicate Id Json)
  | "true" :: rest => .ok (.atomic fun value => value.bool? == some true, rest)
  | "false" :: rest => .ok (.atomic fun value => value.bool? == some false, rest)
  | "null" :: rest => .ok (.atomic fun value => value.isNull, rest)
  | _ => .error (.mismatch "expected true, false or null")

/-- A test that one text passes. -/
def text : Primary (Predicate Id Json)
  | [] => .error (.mismatch "expected a value")
  | expected :: rest => .ok (.atomic fun value => value.text? == some expected, rest)

/-- What can be asked of a value in metadata: a temporal test, a comparison with a number, a word
for a value, or else a text. -/
def value (reference : Instant) : Primary (Predicate Id Json) :=
  .firstOf "expected a value"
    [TimeTest.primary reference Json.instant?, numericComparison, literal, text]

/-- `-meta`: the value at a key path of the metadata passes a test. -/
def metadata (reference : Instant) : Primary Clause
  | [] => .error (.mismatch "expected a key path such as .labels.app")
  | path :: rest =>
    match KeyPath.read? path with
    | none =>
      .error (.malformed
        s!"{quoted path} is not a key path; expected something like .labels.app")
    | some keys => do
      let (test, rest) ← (value reference rest).mapError fun halt => halt.committed.shifted 1
      let found (snapshot : Snapshot) : Option Json :=
        snapshot.metadata.bind fun fields => KeyPath.lookup? fields keys
      .ok (⟨test.lift found, true⟩, rest)

/-- All primaries of queries, with the actions of a registry and times measured from a
reference. -/
def table (registry : ActionRegistry) (reference : Instant) : PrimaryTable Clause :=
  .ofList
    [("-true", constant true), ("-false", constant false), ("-name", glob Snapshot.name),
      ("-path", glob Snapshot.path), ("-action", action registry), ("-size", size),
      ("-atime", time reference Attributes.atime), ("-mtime", time reference Attributes.mtime),
      ("-ctime", time reference Attributes.ctime), ("-crtime", time reference Attributes.crtime),
      ("-meta", metadata reference)]

end Clause
end EntryTree
