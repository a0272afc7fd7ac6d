/-!
# Keyed collections

Values under distinct text keys, listed in ascending order of the keys. The order is part of the
type, so every listing of names is sorted and free of repetitions. Inserting under a key that is
present replaces its value; a collection in which the first value must win asks `contains` before
it inserts.
-/

namespace EntryTree

variable {α : Type}

/-- Values under ascending keys. -/
structure Keyed (α : Type) where
  entries : List (String × α)
  ascending : (entries.map Prod.fst).Pairwise (· < ·)

namespace Keyed

/-- Puts a value at the place of its key in an ascending list. -/
def place (key : String) (value : α) : List (String × α) → List (String × α)
  | [] => [(key, value)]
  | entry :: entries =>
    if key < entry.1 then (key, value) :: entry :: entries
    else if entry.1 < key then entry :: place key value entries
    else (key, value) :: entries

theorem mem_place {key candidate : String} {value : α} {entries : List (String × α)}
    (member : candidate ∈ (place key value entries).map Prod.fst) :
    candidate = key ∨ candidate ∈ entries.map Prod.fst := by
  induction entries with
  | nil => simpa [place] using member
  | cons entry entries ih =>
      simp only [place] at member
      split at member
      · simpa using member
      · split at member
        · simp only [List.map_cons, List.mem_cons] at member ⊢
          rcases member with rfl | member
          · exact .inr (.inl rfl)
          · rcases ih member with rfl | member
            · exact .inl rfl
            · exact .inr (.inr member)
        · simp only [List.map_cons, List.mem_cons] at member ⊢
          rcases member with rfl | member
          · exact .inl rfl
          · exact .inr (.inr member)

theorem ascending_place (key : String) (value : α) {entries : List (String × α)}
    (ascending : (entries.map Prod.fst).Pairwise (· < ·)) :
    ((place key value entries).map Prod.fst).Pairwise (· < ·) := by
  induction entries with
  | nil => simp [place]
  | cons entry entries ih =>
      simp only [List.map_cons, List.pairwise_cons] at ascending
      simp only [place]
      split
      · next before =>
          simp only [List.map_cons, List.pairwise_cons, List.mem_cons]
          refine ⟨fun other member => ?_, ascending⟩
          rcases member with rfl | member
          · exact before
          · exact String.lt_trans before (ascending.1 _ member)
      · next notBefore =>
          split
          · next after =>
              simp only [List.map_cons, List.pairwise_cons]
              refine ⟨fun other member => ?_, ih ascending.2⟩
              rcases mem_place member with rfl | member
              · exact after
              · exact ascending.1 _ member
          · next notAfter =>
              have same : key = entry.1 := String.le_antisymm notAfter notBefore
              simp only [List.map_cons, List.pairwise_cons]
              exact ⟨same ▸ ascending.1, ascending.2⟩

/-- The collection without values. -/
def empty : Keyed α :=
  ⟨[], .nil⟩

/-- The collection with `value` under `key` and everything else as it was. -/
def insert (collection : Keyed α) (key : String) (value : α) : Keyed α :=
  ⟨place key value collection.entries, ascending_place key value collection.ascending⟩

/-- The collection of a list of pairs, of which later ones replace earlier ones. -/
def ofList (pairs : List (String × α)) : Keyed α :=
  pairs.foldl (fun collection (key, value) => collection.insert key value) empty

/-- The value under a key. -/
def find? (collection : Keyed α) (key : String) : Option α :=
  collection.entries.lookup key

/-- Whether there is a value under a key. -/
def contains (collection : Keyed α) (key : String) : Bool :=
  (collection.find? key).isSome

/-- All keys, ascending. -/
def keys (collection : Keyed α) : List String :=
  collection.entries.map Prod.fst

/-- All values in the order of their keys. -/
def values (collection : Keyed α) : List α :=
  collection.entries.map Prod.snd

/-- How many keys there are. -/
def size (collection : Keyed α) : Nat :=
  collection.entries.length

/-- The collection without a key. -/
def erase (collection : Keyed α) (key : String) : Keyed α :=
  ⟨collection.entries.filter (·.1 != key),
    collection.ascending.sublist (List.filter_sublist.map Prod.fst)⟩

theorem lookup_cons (key : String) (entry : String × α) (entries : List (String × α)) :
    (entry :: entries).lookup key = if key = entry.1 then some entry.2 else entries.lookup key := by
  obtain ⟨first, value⟩ := entry
  by_cases here : key = first
  · simp [here]
  · simp [List.lookup_cons, beq_false_of_ne here, here]

theorem lookup_place (key other : String) (value : α) (entries : List (String × α)) :
    (place key value entries).lookup other =
      if other = key then some value else entries.lookup other := by
  induction entries with
  | nil => simp [place, lookup_cons]
  | cons entry entries ih =>
      simp only [place]
      split
      · simp [lookup_cons]
      · next notBefore =>
          split
          · next after =>
              have different : entry.1 ≠ key := by
                rintro rfl
                exact String.lt_irrefl _ after
              by_cases here : other = entry.1 <;> simp [lookup_cons, here, ih, different]
          · next notAfter =>
              have same : key = entry.1 := String.le_antisymm notAfter notBefore
              by_cases here : other = key <;> simp [lookup_cons, here, ← same]

@[simp]
theorem find?_empty (key : String) : (empty : Keyed α).find? key = none :=
  rfl

@[simp]
theorem find?_insert (collection : Keyed α) (key other : String) (value : α) :
    (collection.insert key value).find? other =
      if other = key then some value else collection.find? other :=
  lookup_place key other value collection.entries

/-- Under every key there is the last value that the collection was made of. -/
theorem find?_ofList (pairs : List (String × α)) (key : String) :
    (ofList pairs).find? key = pairs.reverse.lookup key := by
  have inserted : ∀ collection : Keyed α,
      (pairs.foldl (fun collection (key, value) => collection.insert key value)
        collection).find? key = (pairs.reverse.lookup key).or (collection.find? key) := by
    induction pairs with
    | nil => exact fun collection => rfl
    | cons pair pairs ih =>
        intro collection
        rw [List.foldl_cons, ih, find?_insert, List.reverse_cons, List.lookup_append, lookup_cons]
        cases pairs.reverse.lookup key with
        | some value => rfl
        | none => split <;> rfl
  rw [ofList, inserted, find?_empty, Option.or_none]

/-- A value that is found is one of those that the collection was made of. -/
theorem mem_of_find?_ofList {pairs : List (String × α)} {key : String} {value : α}
    (found : (ofList pairs).find? key = some value) : (key, value) ∈ pairs := by
  rw [find?_ofList, List.lookup_eq_some_iff] at found
  rcases found with ⟨before, behind, parts, _⟩
  rw [← List.mem_reverse, parts]
  exact List.mem_append_right before List.mem_cons_self

theorem mem_iff_lookup {entries : List (String × α)}
    (ascending : (entries.map Prod.fst).Pairwise (· < ·)) {key : String} {value : α} :
    (key, value) ∈ entries ↔ entries.lookup key = some value := by
  induction entries with
  | nil => simp
  | cons entry entries ih =>
      rw [List.map_cons, List.pairwise_cons] at ascending
      rw [List.mem_cons, lookup_cons]
      split
      · next same =>
          subst same
          have absent : (entry.1, value) ∉ entries := by
            intro member
            exact String.lt_irrefl _ (ascending.1 _ (List.mem_map.mpr ⟨_, member, rfl⟩))
          simp [absent, Prod.ext_iff, eq_comm]
      · next different => simp [Prod.ext_iff, different, ih ascending.2]

/-- Every value that is listed is the one that is found under its key. -/
theorem mem_entries_iff {collection : Keyed α} {key : String} {value : α} :
    (key, value) ∈ collection.entries ↔ collection.find? key = some value :=
  mem_iff_lookup collection.ascending

theorem contains_iff_mem_keys {collection : Keyed α} {key : String} :
    collection.contains key = true ↔ key ∈ collection.keys := by
  simp only [contains, find?, keys]
  induction collection.entries with
  | nil => simp
  | cons entry entries ih =>
      by_cases here : key = entry.1 <;> simp [lookup_cons, here, ih]

end Keyed
end EntryTree
