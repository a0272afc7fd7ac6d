import EntryTree.Text.Quoted

/-!
# Faults

What can go wrong when an entry is asked to do something. That an entry lacks a capability is not
by itself a fault; being asked for it nevertheless is one.
-/

namespace EntryTree

/-- The failure of an operation. -/
inductive Fault
  /-- The entry does not serve the action. -/
  | notSupported (entry action : String)
  /-- The scope of the operation was cancelled before it finished. -/
  | cancelled
  /-- An action of this name is registered already. -/
  | duplicateAction (name : String)
  /-- The shared registry was set up before. -/
  | registryInitialized
  /-- The protocol of an execution was broken. -/
  | exec (message : String)
  /-- A backend reported a failure. -/
  | backend (message : String)
  /-- Data could not be moved. -/
  | io (message : String)
  deriving DecidableEq, Repr

namespace Fault

/-- The wording of a fault. -/
def message : Fault → String
  | .notSupported entry action => s!"{action} is not supported on {entry}"
  | .cancelled => "operation cancelled"
  | .duplicateAction name => s!"action {Text.quoted name} is already registered"
  | .registryInitialized => "the action registry is already initialized"
  | .exec message => s!"exec error: {message}"
  | .backend message => message
  | .io message => s!"io error: {message}"

/-- Whether an operation failed because its scope was cancelled. -/
def isCancelled : Fault → Bool
  | .cancelled => true
  | _ => false

end Fault
end EntryTree
