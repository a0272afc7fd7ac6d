import EntryTree.Number.Binary64

/-!
# JSON values

A number is an integer if it is written without fraction and exponent and fits a signed or an
unsigned word of 64 bits; every other number is a double. The fields of an object have distinct
names.
-/

namespace EntryTree

/-- A JSON number. -/
inductive Json.Number
  | integer (value : Int)
  | real (value : Binary64)
  deriving DecidableEq, Repr

/-- A JSON value. -/
inductive Json
  | null
  | bool (value : Bool)
  | number (value : Json.Number)
  | text (value : String)
  | array (items : List Json)
  | object (fields : List (String × Json))
  deriving Repr

namespace Json

/-- An object, listed by its fields. -/
abbrev Fields := List (String × Json)

/-- The double nearest to a number. -/
def Number.toBinary64 : Number → Binary64
  | .integer value => .ofInt value
  | .real value => value

/-- An integer as a value. -/
def int (value : Int) : Json :=
  .number (.integer value)

/-- A natural number as a value. -/
def nat (value : Nat) : Json :=
  .int value

/-- The fields of an object. -/
def fields? : Json → Option Fields
  | .object fields => some fields
  | _ => none

/-- The field of an object. -/
def field? (value : Json) (name : String) : Option Json :=
  value.fields?.bind (·.lookup name)

/-- The text, if the value is one. -/
def text? : Json → Option String
  | .text value => some value
  | _ => none

/-- The number, if the value is one. -/
def number? : Json → Option Number
  | .number value => some value
  | _ => none

/-- The integer, if the value is one. -/
def int? : Json → Option Int
  | .number (.integer value) => some value
  | _ => none

/-- The natural number, if the value is one. -/
def nat? (value : Json) : Option Nat :=
  value.int?.bind Int.toNat?

/-- The truth value, if the value is one. -/
def bool? : Json → Option Bool
  | .bool value => some value
  | _ => none

/-- Whether the value is `null`. -/
def isNull : Json → Bool
  | .null => true
  | _ => false

/-- The items, if the value is an array. -/
def array? : Json → Option (List Json)
  | .array items => some items
  | _ => none

end Json
end EntryTree
