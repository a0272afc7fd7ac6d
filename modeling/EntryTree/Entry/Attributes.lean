import EntryTree.Json.Reader
import EntryTree.Json.Writer
import EntryTree.Time.Timestamp

/-!
# Attributes

What a backend knows about an entry in the way of a file system: four timestamps, the mode and the
size, each of them optional. As a document they are an object with the known fields only. Reading
ignores fields of other names, and accepts an array of the values in the order of the fields.
-/

namespace EntryTree

/-- The attributes of an entry. -/
structure Attributes where
  atime : Option Instant := none
  mtime : Option Instant := none
  ctime : Option Instant := none
  crtime : Option Instant := none
  mode : Option Nat := none
  size : Option Nat := none
  deriving DecidableEq, Repr

namespace Attributes

/-- The attributes that say nothing. -/
def empty : Attributes := {}

/-- The names of the fields in their order. -/
def fieldNames : List String :=
  ["atime", "mtime", "ctime", "crtime", "mode", "size"]

/-- The fields that are known, in their order. -/
def toFields (attributes : Attributes) : Json.Fields :=
  let time (name : String) (instant : Option Instant) : Json.Fields :=
    instant.toList.map fun instant => (name, .text instant.toRfc3339)
  let number (name : String) (value : Option Nat) : Json.Fields :=
    value.toList.map fun value => (name, .nat value)
  time "atime" attributes.atime ++ time "mtime" attributes.mtime ++
    time "ctime" attributes.ctime ++ time "crtime" attributes.crtime ++
    number "mode" attributes.mode ++ number "size" attributes.size

/-- The attributes as a document. -/
def write (attributes : Attributes) : String :=
  (Json.object attributes.toFields).write

/-- Reads a timestamp, or nothing from `null`. -/
def readTime? : Json.Form → Option (Option Instant)
  | .null => some none
  | .text (some text) => (Instant.ofTolerant? text.toList).map some
  | _ => none

/-- Reads a natural number below a bound, or nothing from `null`. -/
def readNumber? (bound : Nat) : Json.Form → Option (Option Nat)
  | .null => some none
  | .number (some (.integer value)) =>
    if 0 ≤ value ∧ value < bound then some (some value.toNat) else none
  | _ => none

/-- Sets the field of a name to a value; other names are ignored. -/
def setField? (attributes : Attributes) (name : String) (value : Json.Form) :
    Option Attributes :=
  match name with
  | "atime" => (readTime? value).map fun atime => { attributes with atime }
  | "mtime" => (readTime? value).map fun mtime => { attributes with mtime }
  | "ctime" => (readTime? value).map fun ctime => { attributes with ctime }
  | "crtime" => (readTime? value).map fun crtime => { attributes with crtime }
  | "mode" => (readNumber? 4294967296 value).map fun mode => { attributes with mode }
  | "size" => (readNumber? 18446744073709551616 value).map fun size => { attributes with size }
  | _ => some attributes

/-- Reads the fields of an object. No known field may occur twice. -/
def readFields? (attributes : Attributes) (seen : List String) :
    List (Option String × Json.Form) → Option Attributes
  | [] => some attributes
  | (name, value) :: fields => do
      let name ← name
      if fieldNames.contains name && seen.contains name then none
      else
        let attributes ← attributes.setField? name value
        readFields? attributes (name :: seen) fields

/-- The attributes of a form. -/
def ofForm? : Json.Form → Option Attributes
  | .object fields => readFields? empty [] fields
  | .array values =>
    if fieldNames.length < values.length then none
    else readFields? empty [] ((fieldNames.map some).zip values)
  | _ => none

/-- Reads a document. -/
def read? (document : String) : Option Attributes :=
  (Json.form? document).bind ofForm?

end Attributes
end EntryTree
