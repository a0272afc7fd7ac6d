import EntryTree.Entry.Basic

/-!
# Actions

An action is a verb with the contract it needs and a rule that tells how a native entry serves it.
For an entry behind a table the rule has no say: the outermost table alone decides.
-/

namespace EntryTree

/-- A named verb on entries. -/
structure Action where
  name : String
  /-- The contract that the action needs. -/
  capability : Capability
  /-- How a native entry serves the action. -/
  resolve : Entry → Signature

namespace Action

/-- The signature that a table declares. -/
def declared (table : Keyed Signature) (name : String) : Signature :=
  (table.find? name).getD .unsupported

/-- How an entry serves an action. -/
def signature (action : Action) (entry : Entry) : Signature :=
  match entry.declaration? with
  | some table => declared table action.name
  | none => action.resolve entry

/-- Whether an entry serves an action. -/
def isSupportedOn (action : Action) (entry : Entry) : Bool :=
  (action.signature entry).isSupported

/-- Whether two actions are the same verb on the same contract. -/
def same (left right : Action) : Bool :=
  left.name == right.name && left.capability == right.capability

/-- How an action shows in messages. -/
def display (action : Action) : String :=
  "Action \x7b name: " ++ Text.quoted action.name ++ ", capability: " ++ action.capability.name ++
    " \x7d"

/-- The action that is served in the usual way by entries with its contract. -/
def forCapability (name : String) (capability : Capability) : Action :=
  ⟨name, capability, fun entry => .usualIf (entry.satisfies capability)⟩

/-- Listing children. -/
def list : Action := forCapability "list" .group

/-- Reading content, as a whole or else block by block. -/
def read : Action where
  name := "read"
  capability := .readable
  resolve entry :=
    if entry.satisfies .readable then .usual
    else if entry.satisfies .blockReadable then .blockAddressable
    else .unsupported

/-- Following a feed. -/
def stream : Action := forCapability "stream" .streamable

/-- Replacing content. -/
def write : Action := forCapability "write" .writable

/-- Running a command. -/
def exec : Action := forCapability "exec" .execable

/-- Removing the entry. -/
def delete : Action := forCapability "delete" .deletable

/-- Sending a signal. -/
def signal : Action := forCapability "signal" .signalable

/-- The actions that are always there. -/
def core : List Action :=
  [list, read, stream, write, exec, delete, signal]

end Action
end EntryTree
