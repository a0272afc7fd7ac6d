import EntryTree.Proofs.Action.Resolution
import Mathlib.Data.Finset.Card

/-!
# Registering one action after the other

Whoever holds a registry registers actions in it call by call. A call looks at the registry before
it changes it, so one that is refused leaves it as it was, and what is found under a name is the
first action of that name among all that were there or were registered. All that a registry tells
about itself follows from what it finds under each name.
-/

namespace EntryTree

namespace Keyed

variable {α : Type} {key : String}

theorem place_perm (value : α) {entries : List (String × α)}
    (absent : key ∉ entries.map Prod.fst) :
    (place key value entries).Perm ((key, value) :: entries) := by
  induction entries with
  | nil => exact .refl _
  | cons entry entries ih =>
      rw [List.map_cons, List.mem_cons, not_or] at absent
      rw [place]
      split
      · exact .refl _
      · next notBefore =>
          have after : entry.1 < key := by
            by_contra notAfter
            exact absent.1 (String.le_antisymm notAfter notBefore)
          rw [if_pos after]
          exact ((ih absent.2).cons entry).trans (.swap _ _ _)

theorem nodup_keys (collection : Keyed α) : collection.keys.Nodup :=
  collection.ascending.imp fun before => String.ne_of_lt before

end Keyed

namespace ActionRegistry

variable {registry start : ActionRegistry} {action : Action} {name : String}

/-- Registers an action in the registry that is held, which is looked at first and changed last. -/
def enroll (action : Action) : ExceptT Fault (StateM ActionRegistry) Unit := do
  if (← get).contains action.name then throw (.duplicateAction action.name)
  modify fun registry => registry.insert action.name action

/-- Calls registration: the answer, and the registry that is held then. -/
def call (registry : ActionRegistry) (action : Action) : Except Fault Unit × ActionRegistry :=
  (enroll action).run.run registry

/-- Makes calls one after the other: each with its answer, and the registry after them all. -/
def callAll (registry : ActionRegistry) :
    List Action → List (Action × Except Fault Unit) × ActionRegistry
  | [] => ([], registry)
  | action :: actions =>
    let (answer, next) := registry.call action
    let (history, last) := next.callAll actions
    ((action, answer) :: history, last)

/-! ## One call -/

/-- A call answers what registration answers, and keeps the registry where this fails. -/
theorem call_eq (registry : ActionRegistry) (action : Action) :
    registry.call action =
      ((registry.register action).map fun _ => (), registry.attempt action) := by
  rw [attempt, register]
  change ((if registry.contains action.name then throw (.duplicateAction action.name)
    else modify fun registry => registry.insert action.name action :
      ExceptT Fault (StateM ActionRegistry) Unit)).run.run registry = _
  cases registry.contains action.name <;> rfl

theorem register_of_taken (taken : registry.contains action.name = true) :
    registry.register action = .error (.duplicateAction action.name) :=
  if_pos taken

theorem register_of_free (free : registry.contains action.name = false) :
    registry.register action = .ok (registry.insert action.name action) := by
  rw [register, free, if_neg Bool.false_ne_true]

theorem call_of_taken (taken : registry.contains action.name = true) :
    registry.call action = (.error (.duplicateAction action.name), registry) := by
  rw [call_eq, attempt, register_of_taken taken]
  rfl

theorem call_of_free (free : registry.contains action.name = false) :
    registry.call action = (.ok (), registry.insert action.name action) := by
  rw [call_eq, attempt, register_of_free free]
  rfl

/-- Registration adds the one action, and nothing that was there goes. -/
theorem entries_perm_of_free (free : registry.contains action.name = false) :
    (registry.insert action.name action).entries.Perm
      ((action.name, action) :: registry.entries) := by
  apply Keyed.place_perm
  intro member
  have taken : registry.contains action.name = true := Keyed.contains_iff_mem_keys.mpr member
  rw [free] at taken
  contradiction

/-! ## All calls -/

theorem callAll_cons (registry : ActionRegistry) (action : Action) (actions : List Action) :
    registry.callAll (action :: actions) =
      ((action, (registry.call action).1) :: ((registry.call action).2.callAll actions).1,
        ((registry.call action).2.callAll actions).2) :=
  rfl

theorem callAll_append (registry : ActionRegistry) (earlier later : List Action) :
    (registry.callAll (earlier ++ later)).2 =
      ((registry.callAll earlier).2.callAll later).2 := by
  induction earlier generalizing registry with
  | nil => rfl
  | cons action earlier ih => exact ih (registry.call action).2

/-- After all calls, the first action of a name is found under it. -/
theorem find?_callAll (registry : ActionRegistry) (actions : List Action) (name : String) :
    (registry.callAll actions).2.find? name =
      (registry.find? name).or (actions.find? (·.name == name)) := by
  induction actions generalizing registry with
  | nil => exact (Option.or_none).symm
  | cons action actions ih =>
      rw [callAll_cons, ih, List.find?_cons]
      cases present : registry.contains action.name with
      | true =>
          rw [call_of_taken present]
          rcases Option.isSome_iff_exists.mp present with ⟨holder, found⟩
          by_cases same : action.name = name
          · rw [← same, found]
            rfl
          · rw [beq_false_of_ne same]
      | false =>
          rw [call_of_free present, Keyed.find?_insert]
          have absent : registry.find? action.name = none := by
            simpa [Keyed.contains] using present
          by_cases same : action.name = name
          · simp [← same, absent]
          · rw [beq_false_of_ne same, if_neg (Ne.symm same)]

/-- A name is taken after all calls if it was before them or if one of them succeeded for it. -/
theorem contains_callAll_iff (registry : ActionRegistry) (actions : List Action) (name : String) :
    (registry.callAll actions).2.contains name = true ↔
      registry.contains name = true ∨
        ∃ action, (action, .ok ()) ∈ (registry.callAll actions).1 ∧ action.name = name := by
  induction actions generalizing registry with
  | nil => simp [callAll]
  | cons action actions ih =>
      rw [callAll_cons, ih]
      cases present : registry.contains action.name with
      | true => simp [call_of_taken present]
      | false =>
          have inserted : (registry.insert action.name action).contains name = true ↔
              name = action.name ∨ registry.contains name = true := by
            simp only [Keyed.contains, Keyed.find?_insert]
            split <;> simp_all
          simp only [call_of_free present, inserted, List.mem_cons, Prod.mk.injEq, and_true,
            or_and_right, exists_or, exists_eq_left, eq_comm (a := name)]
          rw [or_assoc, or_left_comm]

/-- The actions that a registry begins with. -/
inductive Begins : List Action → ActionRegistry → Prop
  | empty : Begins [] .empty
  | core : Begins Action.core core

/-- A registry that begins with some actions is one in which they were registered. -/
theorem Begins.eq_callAll {initial : List Action} (begins : Begins initial start) :
    start = (callAll .empty initial).2 := by
  cases begins <;> rfl

section Held

variable {initial : List Action} (begins : Begins initial start) (actions : List Action)

include begins

theorem find?_held (name : String) :
    (start.callAll actions).2.find? name = (initial ++ actions).find? (·.name == name) := by
  rw [begins.eq_callAll, ← callAll_append, find?_callAll, Keyed.find?_empty, Option.none_or]

theorem contains_held_iff (name : String) :
    (start.callAll actions).2.contains name = true ↔
      ∃ action ∈ initial ++ actions, action.name = name := by
  rw [Keyed.contains, find?_held begins, List.find?_isSome]
  simp

/-- A registry holds as many actions as there are names. -/
theorem size_held :
    (start.callAll actions).2.size = ((initial ++ actions).map Action.name).toFinset.card := by
  have keys : (start.callAll actions).2.keys.toFinset =
      ((initial ++ actions).map Action.name).toFinset := by
    ext name
    rw [List.mem_toFinset, List.mem_toFinset, ← Keyed.contains_iff_mem_keys,
      contains_held_iff begins, List.mem_map]
  rw [← keys, List.toFinset_card_of_nodup (Keyed.nodup_keys _), Keyed.keys, List.length_map]
  rfl

theorem taken_iff (name : String) :
    (start.callAll actions).2.contains name = true ↔
      (∃ action ∈ initial, action.name = name) ∨
        ∃ action, (action, .ok ()) ∈ (start.callAll actions).1 ∧ action.name = name := by
  have before := contains_held_iff begins [] name
  rw [List.append_nil] at before
  rw [contains_callAll_iff, ← before]
  rfl

end Held

/-- Whatever was registered in a registry that began without actions or with the core ones, one more
call fails if an action of its name was there from the beginning or by a call that succeeded, names
that action in its fault and leaves the registry as it was. Otherwise it adds its action and nothing
else. So the first action of a name is the one that is found under it, names ascend and are counted
once, and names, look-ups and the actions listed with their names tell the same. -/
theorem first_action_stays {initial : List Action} (begins : Begins initial start)
    (actions : List Action) :
    let history := (start.callAll actions).1
    let registry := (start.callAll actions).2
    (∀ action : Action,
      let taken := (∃ other ∈ initial, other.name = action.name) ∨
        ∃ other, (other, .ok ()) ∈ history ∧ other.name = action.name
      (registry.register action = .error (.duplicateAction action.name) ↔ taken) ∧
      (taken → registry.call action = (.error (.duplicateAction action.name), registry)) ∧
      (¬taken → ∃ extended, registry.register action = .ok extended ∧
        registry.call action = (.ok (), extended) ∧
        extended.entries.Perm ((action.name, action) :: registry.entries))) ∧
    (∀ name, registry.find? name = (initial ++ actions).find? (·.name == name)) ∧
    registry.keys.Pairwise (· < ·) ∧
    registry.size = ((initial ++ actions).map Action.name).toFinset.card ∧
    registry.size = registry.keys.length ∧
    registry.entries.map Prod.fst = registry.keys ∧
    (∀ name, registry.contains name = true ↔ name ∈ registry.keys) ∧
    (∀ name, registry.contains name = true ↔ ∃ action, registry.find? name = some action) ∧
    (∀ name action, (name, action) ∈ registry.entries ↔ registry.find? name = some action) ∧
    ∀ name action, registry.find? name = some action → action.name = name := by
  intro history registry
  refine ⟨?_, find?_held begins actions, registry.ascending, size_held begins actions,
    (List.length_map _).symm, rfl, fun _ => Keyed.contains_iff_mem_keys,
    fun _ => Option.isSome_iff_exists, fun _ _ => Keyed.mem_entries_iff, ?_⟩
  · intro action taken
    have present : registry.contains action.name = true ↔ taken :=
      taken_iff begins actions action.name
    rw [← present]
    refine ⟨⟨?_, register_of_taken⟩, call_of_taken, ?_⟩
    · intro refused
      by_contra free
      rw [register_of_free (Bool.not_eq_true _ ▸ free)] at refused
      contradiction
    · intro free
      rw [Bool.not_eq_true] at free
      exact ⟨_, register_of_free free, call_of_free free, entries_perm_of_free free⟩
  · intro name action found
    rw [find?_held begins] at found
    simpa using List.find?_some found

/-- Of two actions of one name the first stays, and a core action cannot be replaced. -/
theorem first_action_stays_mount :
    ∃ (first second other : Action) (registry : ActionRegistry),
      first = ⟨"mount", .resource, fun _ => .usual⟩ ∧
      second = ⟨"mount", .signalable, fun _ => .unsupported⟩ ∧
      other = ⟨"umount", .resource, fun _ => .usual⟩ ∧
      Begins Action.core core ∧ registry = (core.callAll [first, .list, second]).2 ∧
      registry.find? "mount" = some first ∧ registry.size = 8 ∧
      registry.call second = (.error (.duplicateAction "mount"), registry) ∧
      registry.register .list = .error (.duplicateAction "list") ∧
      ∃ extended, registry.call other = (.ok (), extended) := by
  refine ⟨_, _, _, _, rfl, rfl, rfl, .core, rfl, ?_⟩
  rcases first_action_stays .core [⟨"mount", .resource, fun _ => .usual⟩, .list,
    ⟨"mount", .signalable, fun _ => .unsupported⟩] with ⟨calls, found, _, size, _⟩
  have list : ∃ action ∈ Action.core, action.name = "list" := ⟨.list, List.mem_cons_self, rfl⟩
  refine ⟨found "mount", size, ?_, ?_, ?_⟩
  · exact (calls _).2.1 (.inr ⟨_, List.mem_cons_self, rfl⟩)
  · exact (calls .list).1.mpr (.inl list)
  · rcases calls ⟨"umount", .resource, fun _ => .usual⟩ with ⟨refused, _, added⟩
    rcases added (mt refused.mpr nofun) with ⟨extended, _, called, _⟩
    exact ⟨extended, called⟩

end ActionRegistry
end EntryTree
