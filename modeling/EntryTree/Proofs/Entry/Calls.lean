import EntryTree.Action.Registry

/-!
# The calls on a tree

How the entries of a tree answer when they are listed or their metadata is fetched is fixed with
the tree. This file says of a tree that all its calls are of some kind: that none cancels the
scope it runs in, or that none fails because the scope was cancelled. It also gives the tree that
differs from another one only in that its calls leave the scope alone.

Tables of signatures do not touch the calls, so every condition passes through them.
-/

namespace EntryTree

/-- The entry that answers in the same way and leaves the scope alone. -/
def Profile.calm (profile : Profile) : Profile :=
  { profile with metadata := profile.metadata.map fun call => { call with cancels := false } }

theorem Fault.isCancelled_iff {fault : Fault} : fault.isCancelled = true ↔ fault = .cancelled := by
  cases fault <;> simp [isCancelled]

namespace Entry

/-- Induction over the tables in front of a native entry; its children are left alone. -/
theorem layers {motive : Entry → Prop} (leaf : ∀ profile, motive (.leaf profile))
    (group : ∀ profile call children, motive (.group profile call children))
    (declared : ∀ table inner, motive inner → motive (.declared table inner)) :
    ∀ entry, motive entry
  | .leaf profile => leaf profile
  | .group profile call children => group profile call children
  | .declared table inner => declared table inner (layers leaf group declared inner)

mutual

/-- Whether all calls that can be made in a tree are as stated. -/
def Each (fetched : MetadataCall → Prop) (listed : ListCall → Prop) : Entry → Prop
  | .leaf profile => ∀ call ∈ profile.metadata, fetched call
  | .group profile call children =>
      (∀ call ∈ profile.metadata, fetched call) ∧ listed call ∧ EachOf fetched listed children
  | .declared _ inner => inner.Each fetched listed

/-- Whether all calls that can be made in some trees are as stated. -/
def EachOf (fetched : MetadataCall → Prop) (listed : ListCall → Prop) : List Entry → Prop
  | [] => True
  | entry :: entries => entry.Each fetched listed ∧ EachOf fetched listed entries

end

variable {fetched : MetadataCall → Prop} {listed : ListCall → Prop}

theorem eachOf_iff {entries : List Entry} :
    EachOf fetched listed entries ↔ ∀ entry ∈ entries, entry.Each fetched listed := by
  induction entries with
  | nil => simp [EachOf]
  | cons entry entries ih => simp [EachOf, ih]

theorem Each.metadata {entry : Entry} (each : entry.Each fetched listed) {call : MetadataCall}
    (has : entry.profile.metadata = some call) : fetched call := by
  induction entry using layers with
  | leaf profile => exact each call has
  | group profile _ children => exact each.1 call has
  | declared table inner ih => exact ih each has

theorem Each.group {entry : Entry} (each : entry.Each fetched listed) {call : ListCall}
    {children : List Entry} (has : entry.group? = some (call, children)) :
    listed call ∧ ∀ child ∈ children, child.Each fetched listed := by
  induction entry using layers with
  | leaf profile => simp [group?] at has
  | group profile _ _ =>
      simp only [group?, Option.some.injEq, Prod.mk.injEq] at has
      rcases has with ⟨rfl, rfl⟩
      exact ⟨each.2.1, eachOf_iff.mp each.2.2⟩
  | declared table inner ih => exact ih each has

/-- No call in the tree cancels the scope it runs in. -/
def Calm (entry : Entry) : Prop :=
  entry.Each (fun call => call.cancels = false) (fun call => call.cancels = false)

/-- No call in the tree fails as if its scope had been cancelled. -/
def Answering (entry : Entry) : Prop :=
  entry.Each (fun call => call.outcome ≠ .error .cancelled)
    (fun call => call.failure ≠ some .cancelled)

mutual

/-- The tree whose calls answer in the same way and leave the scope alone. -/
def calm : Entry → Entry
  | .leaf profile => .leaf profile.calm
  | .group profile call children =>
      .group profile.calm { call with cancels := false } (calmAll children)
  | .declared table inner => .declared table inner.calm

/-- The trees whose calls answer in the same way and leave the scope alone. -/
def calmAll : List Entry → List Entry
  | [] => []
  | entry :: entries => entry.calm :: calmAll entries

end

theorem calmAll_eq_map (entries : List Entry) : calmAll entries = entries.map calm := by
  induction entries with
  | nil => rfl
  | cons entry entries ih => simp [calmAll, ih]

theorem metadata_calm {fetched' : MetadataCall → Prop} {profile : Profile}
    (fetches : ∀ call, fetched call → fetched' { call with cancels := false })
    (each : ∀ call ∈ profile.metadata, fetched call) :
    ∀ call ∈ profile.calm.metadata, fetched' call := by
  intro call member
  simp only [Profile.calm, Option.mem_def, Option.map_eq_some_iff] at member
  rcases member with ⟨answer, metadata, rfl⟩
  exact fetches answer (each answer metadata)

mutual

theorem each_calm {fetched' : MetadataCall → Prop} {listed' : ListCall → Prop}
    (fetches : ∀ call, fetched call → fetched' { call with cancels := false })
    (lists : ∀ call, listed call → listed' { call with cancels := false }) :
    ∀ entry : Entry, entry.Each fetched listed → entry.calm.Each fetched' listed'
  | .leaf _, each => metadata_calm fetches each
  | .group _ call children, ⟨metadata, answer, each⟩ =>
      ⟨metadata_calm fetches metadata, lists call answer,
        eachOf_calmAll fetches lists children each⟩
  | .declared _ inner, each => each_calm fetches lists inner each

theorem eachOf_calmAll {fetched' : MetadataCall → Prop} {listed' : ListCall → Prop}
    (fetches : ∀ call, fetched call → fetched' { call with cancels := false })
    (lists : ∀ call, listed call → listed' { call with cancels := false }) :
    ∀ entries : List Entry, EachOf fetched listed entries →
      EachOf fetched' listed' (calmAll entries)
  | [], _ => trivial
  | entry :: entries, ⟨each, others⟩ =>
      ⟨each_calm fetches lists entry each, eachOf_calmAll fetches lists entries others⟩

end

theorem Answering.calm {entry : Entry} (answering : entry.Answering) : entry.calm.Answering :=
  each_calm (fun _ answered => answered) (fun _ answered => answered) entry answering

theorem Answering.calm_calm {entry : Entry} (answering : entry.Answering) : entry.calm.Calm :=
  each_calm (fun _ _ => rfl) (fun _ _ => rfl) entry answering

@[simp]
theorem profile_calm (entry : Entry) : entry.calm.profile = entry.profile.calm := by
  induction entry using layers with
  | leaf => rfl
  | group => rfl
  | declared table inner ih => simpa [calm, profile] using ih

@[simp]
theorem name_calm (entry : Entry) : entry.calm.name = entry.name := by
  simp [name, Profile.calm]

@[simp]
theorem attributes_calm (entry : Entry) : entry.calm.attributes = entry.attributes := by
  simp [attributes, Profile.calm]

@[simp]
theorem declaration?_calm (entry : Entry) : entry.calm.declaration? = entry.declaration? := by
  cases entry <;> rfl

@[simp]
theorem group?_calm (entry : Entry) :
    entry.calm.group? = entry.group?.map fun (call, children) =>
      ({ call with cancels := false }, children.map calm) := by
  induction entry using layers with
  | leaf => rfl
  | group => simp [calm, group?, calmAll_eq_map]
  | declared table inner ih => simpa [calm, group?] using ih

@[simp]
theorem satisfies_calm (entry : Entry) (capability : Capability) :
    entry.calm.satisfies capability = entry.satisfies capability := by
  cases capability <;> simp [satisfies, Profile.calm]

/-- A tree in which fetches and listings succeed and fail, behind tables of which one passes the
listing on and one hides it. The listing of the root may cancel the scope. -/
def specimen (cancels : Bool) : Entry :=
  .declared (.ofActions ["read", "list"])
    (.group { name := "root", metadata := some { outcome := .error (.backend "busy") } } { cancels }
      [.leaf { name := "notes", metadata := some { outcome := .ok [] } },
        .group { name := "mail" } { failure := some (.backend "down") } [],
        .declared .empty (.group { name := "attic" } {} [.leaf { name := "trunk" }])])

theorem calm_specimen : (specimen false).Calm := by
  simp [Calm, specimen, Each, EachOf]

theorem answering_specimen (cancels : Bool) : (specimen cancels).Answering := by
  simp [Answering, specimen, Each, EachOf]

end Entry

/-- An action that is served in the usual way by entries with its contract does not look at what
the calls on an entry do. -/
theorem Action.isSupportedOn_forCapability_calm (name : String) (capability : Capability)
    (entry : Entry) : (forCapability name capability).isSupportedOn entry.calm =
      (forCapability name capability).isSupportedOn entry := by
  simp [isSupportedOn, signature, forCapability]

namespace ActionRegistry

/-- What an entry serves does not hang on which of the calls on it cancel their scope: the rules
of the actions tell from the contracts of an entry how it serves them. -/
def Discreet (registry : ActionRegistry) : Prop :=
  ∀ entry : Entry, registry.supported entry.calm = registry.supported entry

theorem discreet_of_resolve {registry : ActionRegistry}
    (blind : ∀ action ∈ registry.values, ∀ entry : Entry,
      action.resolve entry.calm = action.resolve entry) : registry.Discreet := by
  intro entry
  have same : registry.resolveAll entry.calm = registry.resolveAll entry := by
    unfold resolveAll
    rw [Entry.declaration?_calm]
    split
    · rfl
    · exact List.map_congr_left fun action member => by rw [blind action member entry]
  simp only [supported, signatures, same]

theorem discreet_core : core.Discreet := by
  apply discreet_of_resolve
  intro action member entry
  have values : core.values =
      [Action.delete, .exec, .list, .read, .signal, .stream, .write] := by rfl
  rw [values] at member
  simp only [List.mem_cons, List.not_mem_nil, or_false] at member
  rcases member with rfl | rfl | rfl | rfl | rfl | rfl | rfl <;>
    simp [Action.delete, Action.exec, Action.list, Action.read, Action.signal, Action.stream,
      Action.write, Action.forCapability]

end ActionRegistry
end EntryTree
