import EntryTree.Entry.Attributes
import EntryTree.Proofs.Json.Documents
import EntryTree.Proofs.Time.Writing

/-!
# Attributes as documents

Attributes are written as an object with a field for everything that is known, and read by setting
one field after another. Reading therefore has an invariant: what is set is what the attributes say
under the names that were seen. Each of the six fields keeps it, and the order of the fields plays
no part. Timestamps are the fields that take an argument; they have to lie in a year of four digits,
and leap seconds at the end of a minute.
-/

namespace EntryTree.Attributes

open Json

variable {attributes other : Attributes} {seen : List String}

/-- Timestamps, a mode and a size that a document can hold. -/
structure Portable (attributes : Attributes) : Prop where
  atime : ∀ instant ∈ attributes.atime, instant.Portable
  mtime : ∀ instant ∈ attributes.mtime, instant.Portable
  ctime : ∀ instant ∈ attributes.ctime, instant.Portable
  crtime : ∀ instant ∈ attributes.crtime, instant.Portable
  mode_lt : ∀ mode ∈ attributes.mode, mode < 2 ^ 32
  size_lt : ∀ size ∈ attributes.size, size < 2 ^ 64

/-- The fields, each with whether it is known. -/
def knowledge (attributes : Attributes) : List (String × Bool) :=
  [("atime", attributes.atime.isSome), ("mtime", attributes.mtime.isSome),
    ("ctime", attributes.ctime.isSome), ("crtime", attributes.crtime.isSome),
    ("mode", attributes.mode.isSome), ("size", attributes.size.isSome)]

/-- The attributes that are known by fields of these names. -/
def restricted (attributes : Attributes) (names : List String) : Attributes where
  atime := if "atime" ∈ names then attributes.atime else none
  mtime := if "mtime" ∈ names then attributes.mtime else none
  ctime := if "ctime" ∈ names then attributes.ctime else none
  crtime := if "crtime" ∈ names then attributes.crtime else none
  mode := if "mode" ∈ names then attributes.mode else none
  size := if "size" ∈ names then attributes.size else none

/-- The form of a value that is a text or a number. -/
def scalarForm : Json → Form
  | .text value => .text (some value)
  | .number value => .number (some value)
  | _ => .null

theorem names_toFields (attributes : Attributes) :
    attributes.toFields.map Prod.fst = (attributes.knowledge.filter Prod.snd).map Prod.fst := by
  rcases attributes with ⟨_ | _, _ | _, _ | _, _ | _, _ | _, _ | _⟩ <;> rfl

theorem nodup_toFields (attributes : Attributes) :
    (attributes.toFields.map Prod.fst).Nodup := by
  have distinct : (attributes.knowledge.map Prod.fst).Nodup :=
    (by decide : fieldNames.Nodup)
  rw [names_toFields]
  exact distinct.sublist (List.filter_sublist.map Prod.fst)

theorem readTime?_text {instant : Instant} (portable : instant.Portable) :
    readTime? (scalarForm (.text instant.toRfc3339)) = some (some instant) := by
  rw [scalarForm, readTime?, instant.ofTolerant?_toRfc3339 portable]
  rfl

theorem readNumber?_nat {bound value : Nat} (small : value < bound) :
    readNumber? bound (scalarForm (.nat value)) = some (some value) := by
  have within : (0 : Int) ≤ value ∧ (value : Int) < bound := by omega
  exact if_pos within

/-- What is known is written so that it is read, and reading it adds it to what is known. -/
theorem Portable.setField?_restricted (portable : attributes.Portable) {name : String}
    {value : Json} (member : (name, value) ∈ attributes.toFields) :
    ReadsAs value (scalarForm value) ∧
      ∀ seen, (attributes.restricted seen).setField? name (scalarForm value) =
        some (attributes.restricted (name :: seen)) := by
  simp only [toFields, List.mem_append, List.mem_map, Option.mem_toList, Prod.mk.injEq,
    or_assoc] at member
  rcases member with ⟨instant, known, rfl, rfl⟩ | ⟨instant, known, rfl, rfl⟩ |
    ⟨instant, known, rfl, rfl⟩ | ⟨instant, known, rfl, rfl⟩ | ⟨mode, known, rfl, rfl⟩ |
    ⟨size, known, rfl, rfl⟩
  · have read := readTime?_text (portable.atime instant known)
    exact ⟨readsAs_text _, fun seen => by simp [setField?, read, restricted, known]⟩
  · have read := readTime?_text (portable.mtime instant known)
    exact ⟨readsAs_text _, fun seen => by simp [setField?, read, restricted, known]⟩
  · have read := readTime?_text (portable.ctime instant known)
    exact ⟨readsAs_text _, fun seen => by simp [setField?, read, restricted, known]⟩
  · have read := readTime?_text (portable.crtime instant known)
    exact ⟨readsAs_text _, fun seen => by simp [setField?, read, restricted, known]⟩
  · have small := portable.mode_lt mode known
    have read : readNumber? 4294967296 (scalarForm (.nat mode)) = some (some mode) :=
      readNumber?_nat small
    have fits : mode ≤ maxWord := by
      rw [maxWord]
      omega
    exact ⟨readsAs_nat fits, fun seen => by simp [setField?, read, restricted, known]⟩
  · have small := portable.size_lt size known
    have read : readNumber? 18446744073709551616 (scalarForm (.nat size)) = some (some size) :=
      readNumber?_nat small
    have fits : size ≤ maxWord := by
      rw [maxWord]
      omega
    exact ⟨readsAs_nat fits, fun seen => by simp [setField?, read, restricted, known]⟩

/-- Fields that are read one after another add up, in whatever order they are. -/
theorem Portable.readFields?_restricted (portable : attributes.Portable) {fields : Json.Fields}
    (members : ∀ field ∈ fields, field ∈ attributes.toFields)
    (distinct : (fields.map Prod.fst).Nodup) (apart : ∀ field ∈ fields, field.1 ∉ seen) :
    readFields? (attributes.restricted seen) seen
        (fields.map fun field => (some field.1, scalarForm field.2)) =
      some (attributes.restricted ((fields.map Prod.fst).reverse ++ seen)) := by
  induction fields generalizing seen with
  | nil => rfl
  | cons field fields ih =>
      rcases portable.setField?_restricted (members field List.mem_cons_self) with ⟨-, set⟩
      rw [List.map_cons, List.nodup_cons] at distinct
      have fresh : (fieldNames.contains field.1 && seen.contains field.1) = false := by
        have unseen := apart field List.mem_cons_self
        simp [unseen]
      have apart' : ∀ other ∈ fields, other.1 ∉ field.1 :: seen := by
        intro other member
        rw [List.mem_cons, not_or]
        refine ⟨?_, apart other (List.mem_cons_of_mem _ member)⟩
        intro same
        exact distinct.1 (List.mem_map.mpr ⟨other, member, same⟩)
      rw [List.map_cons, readFields?]
      simp only [Option.bind_eq_bind, Option.bind_some, fresh, Bool.false_eq_true, if_false, set]
      rw [ih (fun other member => members other (List.mem_cons_of_mem _ member)) distinct.2 apart']
      simp

theorem restricted_nil (attributes : Attributes) : attributes.restricted [] = empty := by
  simp [restricted, empty]

theorem ite_mem_of_isSome {α : Type} {name : String} {names : List String} {value : Option α}
    (listed : value.isSome = true → name ∈ names) :
    (if name ∈ names then value else none) = value := by
  cases value with
  | none => exact ite_self none
  | some value => exact if_pos (listed rfl)

theorem restricted_of_names {names : List String}
    (listed : ∀ field ∈ attributes.knowledge, field.2 = true → field.1 ∈ names) :
    attributes.restricted names = attributes := by
  simp only [knowledge, List.forall_mem_cons] at listed
  rcases listed with ⟨atime, mtime, ctime, crtime, mode, size, -⟩
  simp only [restricted, ite_mem_of_isSome atime, ite_mem_of_isSome mtime,
    ite_mem_of_isSome ctime, ite_mem_of_isSome crtime, ite_mem_of_isSome mode,
    ite_mem_of_isSome size]

theorem Portable.readsAs (portable : attributes.Portable) {fields : Json.Fields}
    (same : fields.Perm attributes.toFields) :
    ReadsAs (.object fields)
      (.object (fields.map fun field => (some field.1, scalarForm field.2))) := by
  apply readsAs_object
  · rw [List.forall₂_map_right_iff, List.forall₂_same]
    intro field member
    exact ⟨rfl, (portable.setField?_restricted (same.subset member)).1⟩
  · exact (same.map Prod.fst).nodup_iff.mpr (nodup_toFields attributes)

theorem Portable.read?_write (portable : attributes.Portable) {fields : Json.Fields}
    (same : fields.Perm attributes.toFields) :
    Attributes.read? (Json.object fields).write = some attributes := by
  have names := (same.map Prod.fst).nodup_iff.mpr (nodup_toFields attributes)
  have read := portable.readFields?_restricted (fun _ member => same.subset member) names
    fun _ _ => List.not_mem_nil
  have listed : ∀ field ∈ attributes.knowledge, field.2 = true →
      field.1 ∈ (fields.map Prod.fst).reverse ++ [] := by
    intro field member known
    rw [List.append_nil, List.mem_reverse, (same.map Prod.fst).mem_iff, names_toFields]
    exact List.mem_map_of_mem (List.mem_filter.mpr ⟨member, known⟩)
  rw [restricted_nil, restricted_of_names listed] at read
  rw [Attributes.read?, form?_write (portable.readsAs same)]
  exact read

/-- Whatever of the attributes is known, the document that they are written to is read as them, and
so is every document of the same fields in another order. The document is an object that has the
fields that are known and no others, so attributes that are not the same differ as documents and as
objects. -/
theorem document_determines (portable : attributes.Portable) :
    Attributes.read? attributes.write = some attributes ∧
    (∀ fields : Json.Fields, fields.Perm attributes.toFields →
      Attributes.read? (Json.object fields).write = some attributes) ∧
    Json.read? attributes.write = some (.object attributes.toFields) ∧
    attributes.toFields.map Prod.fst = (attributes.knowledge.filter Prod.snd).map Prod.fst ∧
    (attributes.toFields.map Prod.fst).Nodup ∧
    ∀ other : Attributes, other.Portable →
      (attributes.write = other.write → attributes = other) ∧
      (attributes.toFields.Perm other.toFields → attributes = other) := by
  have read : Attributes.read? attributes.write = some attributes :=
    portable.read?_write (List.Perm.refl _)
  refine ⟨read, fun _ same => portable.read?_write same,
    Json.read?_write (portable.readsAs (List.Perm.refl _)), names_toFields attributes,
    nodup_toFields attributes, ?_⟩
  intro other otherPortable
  -- Both are what one document is read as.
  have otherRead : Attributes.read? other.write = some other :=
    otherPortable.read?_write (List.Perm.refl _)
  refine ⟨?_, ?_⟩
  · intro same
    rw [same, otherRead] at read
    exact (Option.some.inj read).symm
  · intro same
    have shared : Attributes.read? other.write = some attributes :=
      portable.read?_write same.symm
    rw [otherRead] at shared
    exact (Option.some.inj shared).symm

/-- The leap second at the end of 2016 and half a second, with a size as large as can be. -/
theorem document_determines_leap_second :
    ∃ attributes : Attributes,
      attributes = { mtime := some ⟨1483228799, 1500000000⟩, size := some 18446744073709551615 } ∧
      attributes.Portable ∧
      attributes.write =
        "\x7b\"mtime\":\"2016-12-31T23:59:60.500Z\",\"size\":18446744073709551615\x7d" ∧
      Attributes.read? attributes.write = some attributes := by
  have leap : Instant.Portable ⟨1483228799, 1500000000⟩ :=
    ⟨⟨by decide, by decide⟩, by decide, by decide⟩
  have portable : Attributes.Portable
      { mtime := some ⟨1483228799, 1500000000⟩, size := some 18446744073709551615 } := by
    refine ⟨nofun, ?_, nofun, nofun, nofun, ?_⟩
    · rintro _ ⟨⟩
      exact leap
    · rintro _ ⟨⟩
      decide
  exact ⟨_, rfl, portable, by decide +kernel, (document_determines portable).1⟩

end EntryTree.Attributes
