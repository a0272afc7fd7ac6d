import EntryTree.Action.Basic

/-!
# Registries of actions

A vocabulary of actions under their names. The first action of a name stays; another one of the
same name is refused and changes nothing.
-/

namespace EntryTree

/-- Actions by name. -/
abbrev ActionRegistry := Keyed Action

namespace ActionRegistry

/-- Adds an action, unless its name is taken. -/
def register (registry : ActionRegistry) (action : Action) : Except Fault ActionRegistry :=
  if registry.contains action.name then .error (.duplicateAction action.name)
  else .ok (registry.insert action.name action)

/-- The registry of the actions that are always there. -/
def core : ActionRegistry :=
  .ofList (Action.core.map fun action => (action.name, action))

/-- How an entry serves every action. What kind of entry it is decides once for all actions. -/
def resolveAll (registry : ActionRegistry) (entry : Entry) : List (String × Signature) :=
  match entry.declaration? with
  | some table => registry.keys.map fun name => (name, Action.declared table name)
  | none => registry.values.map fun action => (action.name, action.resolve entry)

/-- The actions that an entry serves, and how. -/
def signatures (registry : ActionRegistry) (entry : Entry) : List (String × Signature) :=
  (registry.resolveAll entry).filter fun (_, signature) => signature.isSupported

/-- The names of the actions that an entry serves. -/
def supported (registry : ActionRegistry) (entry : Entry) : List String :=
  (registry.signatures entry).map Prod.fst

end ActionRegistry

/-- The registry that everything in a process shares, once it is set up. -/
structure SharedRegistry where
  registry? : Option ActionRegistry

namespace SharedRegistry

/-- Nothing has used or installed the registry yet. -/
def untouched : SharedRegistry :=
  ⟨none⟩

/-- The registry, set up with the core actions if nothing was installed before. -/
def use (shared : SharedRegistry) : ActionRegistry × SharedRegistry :=
  let registry := shared.registry?.getD ActionRegistry.core
  (registry, ⟨some registry⟩)

/-- Sets the registry up, which can be done only once and not after its first use. -/
def install (shared : SharedRegistry) (registry : ActionRegistry) :
    Except Fault SharedRegistry :=
  match shared.registry? with
  | none => .ok ⟨some registry⟩
  | some _ => .error .registryInitialized

end SharedRegistry
end EntryTree
