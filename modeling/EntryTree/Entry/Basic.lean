import EntryTree.Entry.Attributes
import EntryTree.Entry.CachePolicy
import EntryTree.Entry.Signature
import EntryTree.Fault
import EntryTree.Keyed

/-!
# Entries

An entry is a named node of a tree that may satisfy any number of contracts. A native entry
satisfies the contracts that it was given the means for. A declared entry wraps another one and
states by a table how it serves actions; what it does is what the wrapped entry does, whether or
not that agrees with the table.
-/

namespace EntryTree

/-- A contract that an entry may satisfy. -/
inductive Capability
  | group
  | resource
  | readable
  | blockReadable
  | writable
  | execable
  | streamable
  | deletable
  | signalable
  | cached
  deriving DecidableEq, Repr

namespace Capability

/-- All contracts in their order. -/
def all : List Capability :=
  [.group, .resource, .readable, .blockReadable, .writable, .execable, .streamable, .deletable,
    .signalable, .cached]

/-- The name of a contract. -/
def name : Capability → String
  | .group => "Group"
  | .resource => "Resource"
  | .readable => "Readable"
  | .blockReadable => "BlockReadable"
  | .writable => "Writable"
  | .execable => "Execable"
  | .streamable => "Streamable"
  | .deletable => "Deletable"
  | .signalable => "Signalable"
  | .cached => "Cached"

/-- The contract of a name. -/
def ofName? (name : String) : Option Capability :=
  all.find? (·.name == name)

end Capability

/-- Content, and whether it is opened as a whole or read block by block. -/
inductive Content
  | whole (bytes : List UInt8)
  | blocks (bytes : List UInt8)
  deriving DecidableEq, Repr

/-- The bytes of content. -/
def Content.bytes : Content → List UInt8
  | .whole bytes => bytes
  | .blocks bytes => bytes

/-- How an entry answers when its metadata is fetched. -/
structure MetadataCall where
  /-- Whether the call cancels the scope it runs in. -/
  cancels : Bool := false
  outcome : Except Fault Json.Fields

/-- How an entry answers when it is listed. -/
structure ListCall where
  /-- Whether the call cancels the scope it runs in. -/
  cancels : Bool := false
  /-- What the call fails with instead of giving the children. -/
  failure : Option Fault := none

/-- What a native entry is and has, its children apart. -/
structure Profile where
  name : String
  attributes : Attributes := {}
  metadata : Option MetadataCall := none
  content : Option Content := none
  writable : Bool := false
  /-- The exit code and the output of commands. -/
  execution : Option (Int × List UInt8) := none
  stream : Option (List UInt8) := none
  deletable : Bool := false
  signalable : Bool := false
  /-- Whether the entry has a say in caching, and the policy it brings, if it brings one. -/
  cache : Option (Option CachePolicy) := none

/-- A node of the tree. -/
inductive Entry
  /-- A native entry that cannot be listed. -/
  | leaf (profile : Profile)
  /-- A native entry with children. -/
  | group (profile : Profile) (call : ListCall) (children : List Entry)
  /-- An entry behind a table of signatures. -/
  | declared (table : Keyed Signature) (inner : Entry)

namespace Entry

/-- The native entry behind all tables. -/
def native : Entry → Entry
  | .declared _ inner => inner.native
  | entry => entry

/-- What the native entry is and has. -/
def profile : Entry → Profile
  | .leaf profile => profile
  | .group profile _ _ => profile
  | .declared _ inner => inner.profile

/-- The name of an entry. -/
def name (entry : Entry) : String :=
  entry.profile.name

/-- The attributes of an entry. -/
def attributes (entry : Entry) : Attributes :=
  entry.profile.attributes

/-- How an entry is listed and its children, if it is a group. -/
def group? : Entry → Option (ListCall × List Entry)
  | .leaf _ => none
  | .group _ call children => some (call, children)
  | .declared _ inner => inner.group?

/-- The outermost table. -/
def declaration? : Entry → Option (Keyed Signature)
  | .declared table _ => some table
  | _ => none

/-- Whether an entry satisfies a contract. -/
def satisfies (entry : Entry) : Capability → Bool
  | .group => entry.group?.isSome
  | .resource => entry.profile.metadata.isSome
  | .readable =>
    match entry.profile.content with
    | some (.whole _) => true
    | _ => false
  | .blockReadable =>
    match entry.profile.content with
    | some (.blocks _) => true
    | _ => false
  | .writable => entry.profile.writable
  | .execable => entry.profile.execution.isSome
  | .streamable => entry.profile.stream.isSome
  | .deletable => entry.profile.deletable
  | .signalable => entry.profile.signalable
  | .cached => entry.profile.cache.isSome

/-- The contracts that an entry satisfies, in their order. -/
def capabilities (entry : Entry) : List Capability :=
  Capability.all.filter entry.satisfies

/-- The policy that an entry brings, if it does not leave it at the standard one. -/
def cachePolicy? (entry : Entry) : Option CachePolicy :=
  entry.profile.cache.join

/-- An entry behind tables, the first of them innermost. -/
def wrap (entry : Entry) (tables : List (Keyed Signature)) : Entry :=
  tables.foldl (fun entry table => .declared table entry) entry

/-- How an entry shows in messages. -/
def display (entry : Entry) : String :=
  "Entry \x7b name: " ++ Text.quoted entry.name ++ " \x7d"

end Entry

namespace Keyed

/-- The table that declares actions with their usual signature. -/
def ofActions (names : List String) : Keyed Signature :=
  .ofList (names.map fun name => (name, .usual))

end Keyed
end EntryTree
