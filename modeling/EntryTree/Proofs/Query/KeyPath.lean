import EntryTree.Proofs.Query.Amount
import Mathlib.Data.Set.Function

/-!
# Key paths and the values they address

A key path is written as its keys, each behind a point. No key contains a point, so the text between
the points is the keys again: reading undoes writing, and every token that is read was written. The
keys are then followed from object to object. A token that was not written with keys is rejected as
a path, whatever comes after it.
-/

namespace EntryTree

open Text

namespace KeyPath

variable {piece text : List Char} {pieces : List (List Char)} {keys : List String} {path : String}

/-- Keys that a path can be written with: there is one at least, and none of them is empty or has a
point or a blank in it. -/
structure Writable (keys : List String) : Prop where
  present : keys ≠ []
  filled : ∀ key ∈ keys, key ≠ ""
  free : ∀ key ∈ keys, ∀ c ∈ key.toList, c ≠ '.' ∧ isBlank c = false

/-- Pieces in a row, each behind a point. -/
def pointed (pieces : List (List Char)) : List Char :=
  pieces.flatMap ('.' :: ·)

/-- The path that is written with keys. -/
def written (keys : List String) : String :=
  String.ofList (pointed (keys.map String.toList))

/-- Keys lead from the fields of an object to a value, and only objects lie on the way. -/
inductive Leads : Json.Fields → List String → Json → Prop
  | last {fields : Json.Fields} {key : String} {value : Json}
      (found : fields.lookup key = some value) : Leads fields [key] value
  | through {fields inner : Json.Fields} {key : String} {keys : List String} {value : Json}
      (found : fields.lookup key = some (.object inner)) (leads : Leads inner keys value) :
      Leads fields (key :: keys) value

/-! ## Writing and reading -/

theorem pointed_cons (piece : List Char) (pieces : List (List Char)) :
    pointed (piece :: pieces) = '.' :: (piece ++ pointed pieces) :=
  List.flatMap_cons

theorem parts_cons_of_ne {c : Char} (other : c ≠ '.') {rest first : List Char}
    {others : List (List Char)} (split : parts rest = first :: others) :
    parts (c :: rest) = (c :: first) :: others := by
  simp only [parts, if_neg other, split]

theorem parts_ne_nil (text : List Char) : parts text ≠ [] := by
  cases text with
  | nil => exact List.cons_ne_nil _ _
  | cons c rest =>
      rw [parts]
      split
      · exact List.cons_ne_nil _ _
      · split <;> exact List.cons_ne_nil _ _

/-- What lies between points, with the points put back. -/
theorem pointed_parts (text : List Char) : pointed (parts text) = '.' :: text := by
  induction text with
  | nil => rfl
  | cons c rest ih =>
      by_cases point : c = '.'
      · rw [parts, if_pos point, pointed_cons, ih, point, List.nil_append]
      · rcases List.exists_cons_of_ne_nil (parts_ne_nil rest) with ⟨first, others, split⟩
        rw [split, pointed_cons, List.cons.injEq] at ih
        rw [parts_cons_of_ne point split, pointed_cons, List.cons_append, ih.2]

theorem parts_append {rest first : List Char} {others : List (List Char)} (free : '.' ∉ piece)
    (split : parts rest = first :: others) :
    parts (piece ++ rest) = (piece ++ first) :: others := by
  induction piece with
  | nil => exact split
  | cons c piece ih =>
      rw [List.mem_cons, not_or] at free
      exact parts_cons_of_ne (Ne.symm free.1) (ih free.2)

/-- Points between pieces without points are found where they were put. -/
theorem parts_eq_of_pointed (free : ∀ piece ∈ pieces, '.' ∉ piece)
    (spelled : pointed pieces = '.' :: text) : parts text = pieces := by
  induction pieces generalizing text with
  | nil => contradiction
  | cons piece pieces ih =>
      rw [List.forall_mem_cons] at free
      rw [pointed_cons, List.cons.injEq] at spelled
      rw [← spelled.2]
      cases pieces with
      | nil =>
          have nothing : parts (pointed []) = [[]] := rfl
          simpa using parts_append free.1 nothing
      | cons next others =>
          have later := ih free.2 (pointed_cons next others)
          have split : parts (pointed (next :: others)) = [] :: next :: others := by
            rw [pointed_cons, parts, if_pos rfl, later]
          simpa using parts_append free.1 split

theorem isKey_iff {key : String} :
    isKey key.toList = true ↔ key ≠ "" ∧ ∀ c ∈ key.toList, c ≠ '.' ∧ isBlank c = false := by
  simp [isKey]

theorem writable_iff : Writable keys ↔ keys ≠ [] ∧ ∀ key ∈ keys, isKey key.toList = true := by
  simp only [isKey_iff]
  constructor
  · rintro ⟨present, filled, free⟩
    exact ⟨present, fun key member => ⟨filled key member, free key member⟩⟩
  · rintro ⟨present, valid⟩
    exact ⟨present, fun key member => (valid key member).1, fun key member => (valid key member).2⟩

theorem toList_written (keys : List String) :
    (written keys).toList = pointed (keys.map String.toList) :=
  String.toList_ofList

/-- The keys are read that a path was written with, and no path is read that was not written. -/
theorem read?_eq_some_iff : read? path = some keys ↔ Writable keys ∧ path = written keys := by
  rw [writable_iff]
  constructor
  · intro read
    unfold read? at read
    split at read
    · next rest spelled =>
        dsimp only at read
        split at read
        · next valid =>
            rcases Option.some.inj read with rfl
            have back : ((parts rest).map String.ofList).map String.toList = parts rest := by
              simp
            refine ⟨⟨by simpa using parts_ne_nil rest, by simpa using valid⟩, ?_⟩
            rw [← String.toList_inj, toList_written, back, pointed_parts, spelled]
        · contradiction
    · contradiction
  · rintro ⟨⟨present, valid⟩, rfl⟩
    rcases List.exists_cons_of_ne_nil present with ⟨key, others, rfl⟩
    have spelled := toList_written (key :: others)
    rw [List.map_cons, pointed_cons] at spelled
    have free : ∀ piece ∈ (key :: others).map String.toList, '.' ∉ piece := by
      intro piece member point
      rcases List.mem_map.mp member with ⟨name, named, rfl⟩
      exact ((isKey_iff.mp (valid name named)).2 '.' point).1 rfl
    have split := parts_eq_of_pointed free (pointed_cons _ _)
    have accepted :
        (parts (key.toList ++ pointed (others.map String.toList))).all isKey = true := by
      rw [split, List.all_eq_true]
      simpa using valid
    have back : ((key :: others).map String.toList).map String.ofList = key :: others := by
      simp
    simp only [read?, spelled, accepted, if_true]
    rw [split, back]

theorem lookup?_eq_some_iff {fields : Json.Fields} {value : Json} :
    lookup? fields keys = some value ↔ Leads fields keys value := by
  constructor
  · intro found
    fun_induction lookup? fields keys with
    | case1 => contradiction
    | case2 fields key => exact .last found
    | case3 fields key keys _ ih =>
        simp only [bind, Option.bind_eq_some_iff] at found
        rcases found with ⟨passed, reached, inner, object, found⟩
        cases passed with
        | object items =>
            rcases Option.some.inj object with rfl
            exact .through reached (ih items found)
        | null | bool | number | text | array => contradiction
  · intro leads
    induction leads with
    | last found => exact found
    | @through fields inner key keys value reached leads ih =>
        cases keys with
        | nil => cases leads
        | cons next others => simpa [lookup?, reached, Json.fields?] using ih

end KeyPath

namespace Clause

open KeyPath (Leads Writable written)

variable {reference : Instant} {path : String}

theorem metadata_of_unwritten (reference : Instant)
    (unwritten : ∀ keys, Writable keys → path ≠ written keys) (tokens : List String) :
    metadata reference (path :: tokens) =
      .error (.malformed
        s!"{quoted path} is not a key path; expected something like .labels.app") := by
  have unread : KeyPath.read? path = none := by
    rw [Option.eq_none_iff_forall_ne_some]
    intro keys read
    rcases KeyPath.read?_eq_some_iff.mp read with ⟨writable, spelled⟩
    exact unwritten keys writable spelled
  simp only [metadata, unread]

theorem metadata_of_written {keys : List String} (writable : Writable keys)
    {tokens rest : List String} {test : Predicate Id Json}
    (answered : value reference tokens = .ok (test, rest)) :
    metadata reference (written keys :: tokens) = .ok (atKeys keys test, rest) := by
  rw [metadata_cons reference (KeyPath.read?_eq_some_iff.mpr ⟨writable, rfl⟩), answered]
  rfl

theorem holds_atKeys_iff {keys : List String} {test : Predicate Id Json} {snapshot : Snapshot} :
    (atKeys keys test).test.holds snapshot = true ↔
      ∃ fields found, snapshot.metadata = some fields ∧ Leads fields keys found ∧
        test.holds found = true := by
  simp only [atKeys, Predicate.holds_lift_iff, Option.bind_eq_some_iff,
    KeyPath.lookup?_eq_some_iff]
  constructor
  · rintro ⟨found, ⟨fields, fetched, leads⟩, holds⟩
    exact ⟨fields, found, fetched, leads, holds⟩
  · rintro ⟨fields, found, fetched, leads, holds⟩
    exact ⟨found, ⟨fields, fetched, leads⟩, holds⟩

/-- The token is accepted as a key path, in front of some value. -/
def AcceptsPath (reference : Instant) (path : String) : Prop :=
  ∃ tokens answer, metadata reference (path :: tokens) = .ok answer

theorem acceptsPath_iff :
    AcceptsPath reference path ↔ ∃ keys, Writable keys ∧ path = written keys := by
  constructor
  · rintro ⟨tokens, answer, answered⟩
    by_contra unwritten
    rw [metadata_of_unwritten reference (by simpa using unwritten)] at answered
    contradiction
  · rintro ⟨keys, writable, rfl⟩
    have empty : ∃ test, value reference [""] = .ok (test, []) := ⟨_, rfl⟩
    rcases empty with ⟨test, answered⟩
    exact ⟨[""], _, metadata_of_written writable answered⟩

theorem bijOn_written (reference : Instant) :
    Set.BijOn written {keys | Writable keys} {path | AcceptsPath reference path} := by
  refine ⟨?_, ?_, ?_⟩
  · intro keys writable
    exact acceptsPath_iff.mpr ⟨keys, writable, rfl⟩
  · intro first writable second writable' same
    have read := KeyPath.read?_eq_some_iff.mpr ⟨writable, rfl⟩
    have again := KeyPath.read?_eq_some_iff.mpr ⟨writable', same⟩
    exact Option.some.inj (read.symm.trans again)
  · intro path accepts
    rcases acceptsPath_iff.mp accepts with ⟨keys, writable, rfl⟩
    exact ⟨keys, writable, rfl⟩

/-- A test of metadata holds where its path leads from the metadata, through objects, to a value
that passes its test. Each list of keys has one path, and every other token is rejected as a path,
whatever the tokens behind it are. -/
theorem metadata_addresses (reference : Instant) :
    (∀ keys, Writable keys → ∀ tokens test rest, value reference tokens = .ok (test, rest) →
      ∃ clause, metadata reference (written keys :: tokens) = .ok (clause, rest) ∧
        ∀ snapshot, clause.test.holds snapshot = true ↔
          ∃ fields found, snapshot.metadata = some fields ∧ Leads fields keys found ∧
            test.holds found = true) ∧
    (∀ path, (∀ keys, Writable keys → path ≠ written keys) → ∀ tokens,
      metadata reference (path :: tokens) =
        .error (.failure ⟨.malformed,
          s!"{quoted path} is not a key path; expected something like .labels.app", 0⟩)) ∧
    Set.BijOn written {keys | Writable keys} {path | AcceptsPath reference path} := by
  refine ⟨?_, ?_, bijOn_written reference⟩
  · intro keys writable tokens test rest answered
    refine ⟨atKeys keys test, metadata_of_written writable answered, ?_⟩
    intro snapshot
    exact holds_atKeys_iff
  · intro path unwritten tokens
    exact metadata_of_unwritten reference unwritten tokens

/-- The path of two keys, and the same without the first point. -/
theorem metadata_addresses_nested :
    Writable ["labels", "app"] ∧ written ["labels", "app"] = ".labels.app" ∧
    (∃ clause, metadata ⟨0, 0⟩ [".labels.app", "web", "-size"] = .ok (clause, ["-size"]) ∧
      clause.test.holds { metadata := some [("labels", .object [("app", .text "web")])] } = true ∧
      ¬clause.test.holds { metadata := some [("labels", .text "web")] } = true ∧
      ¬clause.test.holds {} = true) ∧
    (∀ keys, Writable keys → "labels.app" ≠ written keys) ∧
    ∃ error, metadata ⟨0, 0⟩ ["labels.app", "web"] = .error (.failure error) ∧
      error.position = 0 := by
  have spelled : written ["labels", "app"] = ".labels.app" := by decide
  have read : KeyPath.read? ".labels.app" = some ["labels", "app"] := by decide
  have writable := (KeyPath.read?_eq_some_iff.mp read).1
  have unwritten : ∀ keys, Writable keys → "labels.app" ≠ written keys := by
    intro keys valid same
    have unread : KeyPath.read? "labels.app" = none := by decide
    rw [KeyPath.read?_eq_some_iff.mpr ⟨valid, same⟩] at unread
    contradiction
  have answered : ∃ test, value ⟨0, 0⟩ ["web", "-size"] = .ok (test, ["-size"]) ∧
      test.holds (.text "web") = true := ⟨_, rfl, rfl⟩
  rcases answered with ⟨test, answered, passes⟩
  rcases (metadata_addresses ⟨0, 0⟩).1 _ writable _ _ _ answered with ⟨clause, compiled, holds⟩
  rw [spelled] at compiled
  refine ⟨writable, spelled, ⟨clause, compiled, ?_, ?_, ?_⟩, unwritten, ?_⟩
  · exact (holds _).mpr ⟨_, .text "web", rfl, .through rfl (.last rfl), passes⟩
  · rw [holds]
    rintro ⟨fields, found, ⟨⟩, leads, _⟩
    cases leads with
    | through reached leads =>
        simp only [List.lookup_cons_self, Option.some.injEq, reduceCtorEq] at reached
  · rw [holds]
    rintro ⟨fields, found, fetched, _⟩
    contradiction
  · exact ⟨_, (metadata_addresses ⟨0, 0⟩).2.1 _ unwritten ["web"], rfl⟩

end Clause
end EntryTree
