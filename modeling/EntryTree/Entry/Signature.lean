import EntryTree.Json.Reader

/-!
# Signatures

How an entry serves an action: not at all, in the way that is usual for the action, or, for
reading, block by block. Signatures are ordered in this way. As a document a signature is its
name, or an object with the name as its only field and nothing in it.
-/

namespace EntryTree

/-- How an entry serves an action. -/
inductive Signature
  | unsupported
  /-- By the contract that is usual for the action. -/
  | usual
  /-- By reads of blocks at any offset. -/
  | blockAddressable
  deriving DecidableEq, Repr

namespace Signature

/-- Whether the action is served at all. -/
def isSupported (signature : Signature) : Bool :=
  signature != .unsupported

/-- The usual signature if a condition holds. -/
def usualIf (condition : Bool) : Signature :=
  if condition then .usual else .unsupported

/-- The place of a signature in their order. -/
def rank : Signature → Nat
  | .unsupported => 0
  | .usual => 1
  | .blockAddressable => 2

instance : Ord Signature := ⟨fun left right => compare left.rank right.rank⟩

/-- The name of a signature in documents. -/
def name : Signature → String
  | .unsupported => "unsupported"
  | .usual => "default"
  | .blockAddressable => "block_addressable"

/-- All signatures in their order. -/
def all : List Signature :=
  [.unsupported, .usual, .blockAddressable]

/-- The signature of a name. -/
def ofName? (name : String) : Option Signature :=
  all.find? (·.name == name)

/-- The signature of a form. -/
def ofForm? : Json.Form → Option Signature
  | .text (some name) => ofName? name
  | .object [(some name, .null)] => ofName? name
  | _ => none

/-- Reads a document. -/
def read? (document : String) : Option Signature :=
  (Json.form? document).bind ofForm?

end Signature
end EntryTree
