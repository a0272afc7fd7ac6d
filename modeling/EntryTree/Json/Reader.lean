import EntryTree.Json.Lexeme

/-!
# Reading JSON documents

A document is read in two steps. Its form is the nesting of its words; its value exists if every
word in it has one. A reader that ignores a part of a document needs only the form of that part.

The form is assembled word by word with a stack of the arrays and objects that are still open.
-/

namespace EntryTree.Json

/-- A document whose words need not have values. -/
inductive Form
  | null
  | bool (value : Bool)
  | number (value : Option Number)
  | text (value : Option String)
  | array (items : List Form)
  | object (fields : List (Option String × Form))

/-- An array or object that is still open, its contents newest first. -/
inductive Enclosure
  | array (items : List Form)
  | object (fields : List (Option String × Form)) (name : Option String)

/-- What the words read so far amount to, inside the enclosures still open, innermost first. -/
inductive Progress
  /-- A value has to follow. -/
  | expectValue (enclosures : List Enclosure)
  /-- An array was opened: a value or its end has to follow. -/
  | expectItem (enclosures : List Enclosure)
  /-- An object was opened: a name or its end has to follow. -/
  | expectField (enclosures : List Enclosure)
  /-- A field was finished with a comma: a name has to follow. -/
  | expectName (fields : List (Option String × Form)) (enclosures : List Enclosure)
  /-- A name was read: a colon has to follow. -/
  | expectColon (fields : List (Option String × Form)) (name : Option String)
      (enclosures : List Enclosure)
  /-- A value was finished. -/
  | finished (form : Form) (enclosures : List Enclosure)

/-- Continues with a word where a value has to follow. -/
def Progress.open? (enclosures : List Enclosure) : Lexeme → Option Progress
  | .null => some (.finished .null enclosures)
  | .bool value => some (.finished (.bool value) enclosures)
  | .number value => some (.finished (.number value) enclosures)
  | .text value => some (.finished (.text value) enclosures)
  | .openArray => some (.expectItem enclosures)
  | .openObject => some (.expectField enclosures)
  | _ => none

/-- Continues with one more word. -/
def Progress.step? : Progress → Lexeme → Option Progress
  | .expectValue enclosures, lexeme => Progress.open? enclosures lexeme
  | .expectItem enclosures, .closeArray => some (.finished (.array []) enclosures)
  | .expectItem enclosures, lexeme => Progress.open? (.array [] :: enclosures) lexeme
  | .expectField enclosures, .closeObject => some (.finished (.object []) enclosures)
  | .expectField enclosures, .text name => some (.expectColon [] name enclosures)
  | .expectName fields enclosures, .text name => some (.expectColon fields name enclosures)
  | .expectColon fields name enclosures, .colon =>
    some (.expectValue (.object fields name :: enclosures))
  | .finished form (.array items :: enclosures), .comma =>
    some (.expectValue (.array (form :: items) :: enclosures))
  | .finished form (.array items :: enclosures), .closeArray =>
    some (.finished (.array (form :: items).reverse) enclosures)
  | .finished form (.object fields name :: enclosures), .comma =>
    some (.expectName ((name, form) :: fields) enclosures)
  | .finished form (.object fields name :: enclosures), .closeObject =>
    some (.finished (.object ((name, form) :: fields).reverse) enclosures)
  | _, _ => none

/-- The form of a document. -/
def form? (document : String) : Option Form := do
  let lexemes ← lexemes? document.toList
  match ← lexemes.foldlM Progress.step? (.expectValue []) with
  | .finished form [] => some form
  | _ => none

/-- Adds a field, in place of an earlier one of the same name. -/
def setField (fields : Fields) (name : String) (value : Json) : Fields :=
  fields.filter (·.1 != name) ++ [(name, value)]

mutual

/-- The value of a form, if all its words have values. -/
def Form.value? : Form → Option Json
  | .null => some .null
  | .bool value => some (.bool value)
  | .number value => value.map .number
  | .text value => value.map .text
  | .array items => (Form.values? items).map .array
  | .object fields => (Form.fieldValues? [] fields).map .object

/-- The values of the items of an array. -/
def Form.values? : List Form → Option (List Json)
  | [] => some []
  | item :: items => do
      let value ← Form.value? item
      let values ← Form.values? items
      some (value :: values)

/-- The fields of an object after `earlier`; the last field of a name counts. -/
def Form.fieldValues? (earlier : Fields) : List (Option String × Form) → Option Fields
  | [] => some earlier
  | (name, field) :: fields => do
      let name ← name
      let value ← Form.value? field
      Form.fieldValues? (setField earlier name value) fields

end

/-- The value of a document. -/
def read? (document : String) : Option Json :=
  (form? document).bind Form.value?

end EntryTree.Json
