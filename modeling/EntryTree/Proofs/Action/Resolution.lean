import EntryTree.Action.Registry

/-!
# Resolving all actions at once

A registry resolves its actions on an entry in one pass: what kind of entry it is decides once how
all of them are resolved, by their names behind a table and by their own rules otherwise. An action
by itself resolves in the same way, but it knows its own name only and not the one that it is
registered under. The two agree because every registry keeps its actions under their names.
-/

namespace EntryTree

theorem Action.isSupportedOn_iff (action : Action) {entry : Entry} :
    action.isSupportedOn entry = true ↔ action.signature entry ≠ .unsupported := by
  simp [isSupportedOn, Signature.isSupported]

namespace ActionRegistry

variable {registry : ActionRegistry} {entry : Entry} {name : String}

/-- The registry after an attempt to add an action. One that is refused changes nothing. -/
def attempt (registry : ActionRegistry) (action : Action) : ActionRegistry :=
  match registry.register action with
  | .ok extended => extended
  | .error _ => registry

/-- The registry after attempts to add some actions, one after the other. -/
def attemptAll (registry : ActionRegistry) (actions : List Action) : ActionRegistry :=
  actions.foldl attempt registry

/-- The registry began without actions or with the core ones, and all that has been done since is to
attempt to add others. -/
def Built (registry : ActionRegistry) : Prop :=
  ∃ actions, registry = attemptAll .empty actions ∨ registry = attemptAll core actions

/-! ## Names -/

/-- Every action is registered under its own name. -/
def Named (registry : ActionRegistry) : Prop :=
  ∀ ⦃name action⦄, registry.find? name = some action → action.name = name

theorem named_empty : Named .empty := by
  intro name action found
  rw [Keyed.find?_empty] at found
  contradiction

theorem named_core : Named core := by
  intro name action found
  rcases List.mem_map.mp (Keyed.mem_of_find?_ofList found) with ⟨_, _, same⟩
  rcases Prod.mk.inj same with ⟨rfl, rfl⟩
  rfl

theorem Named.attempt (named : registry.Named) (action : Action) :
    (registry.attempt action).Named := by
  unfold ActionRegistry.attempt register
  split
  · next extended answered =>
      split at answered
      · contradiction
      · rcases Except.ok.inj answered with rfl
        intro name other found
        rw [Keyed.find?_insert] at found
        split at found
        · next same =>
            rcases Option.some.inj found with rfl
            exact same.symm
        · exact named found
  · exact named

theorem Named.attemptAll (named : registry.Named) (actions : List Action) :
    (registry.attemptAll actions).Named := by
  induction actions generalizing registry with
  | nil => exact named
  | cons action actions ih => exact ih (named.attempt action)

theorem Built.named (built : registry.Built) : registry.Named := by
  rcases built with ⟨actions, rfl | rfl⟩
  · exact named_empty.attemptAll actions
  · exact named_core.attemptAll actions

/-! ## Resolution -/

/-- To resolve all actions in one pass is to resolve each of them by itself. -/
theorem Named.resolveAll_eq (named : registry.Named) (entry : Entry) :
    registry.resolveAll entry =
      registry.entries.map fun (name, action) => (name, action.signature entry) := by
  have own : ∀ pair ∈ registry.entries, pair.2.name = pair.1 := by
    intro pair member
    exact named (Keyed.mem_entries_iff.mp member)
  cases declared : entry.declaration? with
  | none =>
      simp only [resolveAll, Action.signature, declared, Keyed.values, List.map_map]
      apply List.map_congr_left
      intro pair member
      simp only [Function.comp_apply, own pair member]
  | some table =>
      simp only [resolveAll, Action.signature, declared, Keyed.keys, List.map_map]
      apply List.map_congr_left
      intro pair member
      simp only [Function.comp_apply, own pair member]

/-- The actions that are served are listed with the signatures that they have by themselves. -/
theorem Named.mem_signatures_iff (named : registry.Named) {signature : Signature} :
    (name, signature) ∈ registry.signatures entry ↔
      ∃ action, registry.find? name = some action ∧ action.isSupportedOn entry = true ∧
        signature = action.signature entry := by
  rw [signatures, named.resolveAll_eq, List.mem_filter, List.mem_map]
  constructor
  · rintro ⟨⟨⟨_, action⟩, member, same⟩, served⟩
    rcases Prod.mk.inj same with ⟨rfl, rfl⟩
    exact ⟨action, Keyed.mem_entries_iff.mp member, served, rfl⟩
  · rintro ⟨action, found, served, rfl⟩
    exact ⟨⟨(name, action), Keyed.mem_entries_iff.mpr found, rfl⟩, served⟩

theorem Named.mem_supported_iff (named : registry.Named) :
    name ∈ registry.supported entry ↔
      ∃ action, registry.find? name = some action ∧ action.isSupportedOn entry = true := by
  simp only [supported, List.mem_map, Prod.exists, exists_and_right, exists_eq_right,
    named.mem_signatures_iff]
  constructor
  · rintro ⟨_, action, found, served, _⟩
    exact ⟨action, found, served⟩
  · rintro ⟨action, found, served⟩
    exact ⟨_, action, found, served, rfl⟩

theorem Named.supported_ascending (named : registry.Named) (entry : Entry) :
    (registry.supported entry).Pairwise (· < ·) := by
  have keys : (registry.resolveAll entry).map Prod.fst = registry.keys := by
    rw [named.resolveAll_eq, List.map_map]
    rfl
  have ascending : ((registry.resolveAll entry).map Prod.fst).Pairwise (· < ·) :=
    keys ▸ registry.ascending
  exact ascending.sublist (List.filter_sublist.map Prod.fst)

/-- Whatever was attempted to be registered, the names of the actions that an entry serves ascend
and are those of the registered actions that say so themselves. They come with the signatures that
these actions have by themselves, none of which is that of an action that is not served. What a
table declares without its being registered does not show. -/
theorem resolves_each_action (built : registry.Built) (entry : Entry) :
    (registry.supported entry).Pairwise (· < ·) ∧
    (∀ name, name ∈ registry.supported entry ↔
      ∃ action, registry.find? name = some action ∧ action.name = name ∧
        action.isSupportedOn entry = true) ∧
    (registry.signatures entry).map Prod.fst = registry.supported entry ∧
    (∀ name signature, (name, signature) ∈ registry.signatures entry ↔
      signature ≠ .unsupported ∧
        ∃ action, registry.find? name = some action ∧ signature = action.signature entry) ∧
    ∀ name, registry.contains name = false → name ∉ registry.supported entry := by
  have named := built.named
  refine ⟨named.supported_ascending entry, ?_, rfl, ?_, ?_⟩
  · intro name
    rw [named.mem_supported_iff]
    constructor
    · rintro ⟨action, found, served⟩
      exact ⟨action, found, named found, served⟩
    · rintro ⟨action, found, _, served⟩
      exact ⟨action, found, served⟩
  · intro name signature
    rw [named.mem_signatures_iff]
    constructor
    · rintro ⟨action, found, served, rfl⟩
      exact ⟨action.isSupportedOn_iff.mp served, action, found, rfl⟩
    · rintro ⟨served, action, found, rfl⟩
      exact ⟨action, found, action.isSupportedOn_iff.mpr served, rfl⟩
  · intro name absent listed
    rcases named.mem_supported_iff.mp listed with ⟨action, found, _⟩
    simp [Keyed.contains, found] at absent

/-- Of what the outermost table declares, the action that was added is served as declared, the core
action is declared not to be, and the third one is not registered. -/
theorem resolves_each_action_added :
    ∃ (registry : ActionRegistry) (entry : Entry),
      registry = core.attemptAll [⟨"mount", .resource, fun _ => .usual⟩, .list] ∧
      entry = (Entry.leaf { name := "disk" }).wrap
        [.ofActions ["list"],
          .ofList [("shred", .usual), ("mount", .blockAddressable), ("read", .unsupported)]] ∧
      registry.Built ∧ registry.signatures entry = [("mount", .blockAddressable)] ∧
      (registry.supported entry).Pairwise (· < ·) ∧ "mount" ∈ registry.supported entry ∧
      "shred" ∉ registry.supported entry := by
  have built : (core.attemptAll [⟨"mount", .resource, fun _ => .usual⟩, .list]).Built :=
    ⟨_, .inr rfl⟩
  refine ⟨_, _, rfl, rfl, built, ?_⟩
  have agrees := resolves_each_action built
  refine ⟨by decide, (agrees _).1, ?_, (agrees _).2.2.2.2 _ rfl⟩
  exact ((agrees _).2.1 _).mpr ⟨_, rfl, rfl, rfl⟩

end ActionRegistry
end EntryTree
