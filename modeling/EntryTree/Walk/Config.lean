import EntryTree.Json.Reader
import EntryTree.Json.Writer

/-!
# The limits of a walk

Depths between which entries are matched, the root being at depth zero, and whether metadata is
fetched even if a query does not look at it. As a document the limits are an object with known
fields only, of which any may be missing, or an array of the values in the order of the fields.
-/

namespace EntryTree

/-- The limits and options of a walk. -/
structure WalkConfig where
  /-- Entries above this depth are visited but not matched. -/
  mindepth : Nat := 0
  /-- Entries below this depth are not visited. -/
  maxdepth : Option Nat := none
  /-- Whether metadata is fetched for every entry that is matched. -/
  fetchMetadata : Bool := false
  deriving DecidableEq, Repr

namespace WalkConfig

/-- What is wrong with a configuration. -/
inductive Refusal
  /-- The document has not the form of a configuration. -/
  | format
  /-- No depth lies between the limits. -/
  | emptyRange (mindepth maxdepth : Nat)
  deriving DecidableEq, Repr

/-- The wording of a refusal. -/
def Refusal.message : Refusal → String
  | .format => "invalid config"
  | .emptyRange mindepth maxdepth =>
    s!"invalid config: mindepth ({mindepth}) is greater than maxdepth ({maxdepth})"

/-- Whether entries at a depth are matched. -/
def matchesAt (config : WalkConfig) (depth : Nat) : Bool :=
  config.mindepth ≤ depth && config.maxdepth.all (depth ≤ ·)

/-- Whether the children of entries at a depth are visited. -/
def descendsFrom (config : WalkConfig) (depth : Nat) : Bool :=
  config.maxdepth.all (depth < ·)

/-- Refuses limits that no depth lies between. -/
def validate (config : WalkConfig) : Except Refusal Unit :=
  match config.maxdepth with
  | none => .ok ()
  | some maxdepth =>
    if maxdepth < config.mindepth then .error (.emptyRange config.mindepth maxdepth) else .ok ()

/-- The names of the fields in their order. -/
def fieldNames : List String :=
  ["mindepth", "maxdepth", "fetch_metadata"]

/-- The fields of a configuration in their order. -/
def toFields (config : WalkConfig) : Json.Fields :=
  ("mindepth", .nat config.mindepth) ::
    config.maxdepth.toList.map (fun maxdepth => ("maxdepth", .nat maxdepth)) ++
    [("fetch_metadata", .bool config.fetchMetadata)]

/-- The configuration as a document. -/
def write (config : WalkConfig) : String :=
  (Json.object config.toFields).write

/-- Reads a depth. -/
def readDepth? : Json.Form → Option Nat
  | .number (some (.integer value)) => value.toNat?
  | _ => none

/-- Sets the field of a name to a value. -/
def setField? (config : WalkConfig) (name : String) (value : Json.Form) : Option WalkConfig :=
  match name, value with
  | "mindepth", value => (readDepth? value).map fun mindepth => { config with mindepth }
  | "maxdepth", .null => some { config with maxdepth := none }
  | "maxdepth", value => (readDepth? value).map fun depth => { config with maxdepth := some depth }
  | "fetch_metadata", .bool fetchMetadata => some { config with fetchMetadata }
  | _, _ => none

/-- Reads the fields of an object, none of which may occur twice. -/
def readFields? (config : WalkConfig) (seen : List String) :
    List (Option String × Json.Form) → Option WalkConfig
  | [] => some config
  | (name, value) :: fields => do
      let name ← name
      if seen.contains name then none
      else
        let config ← config.setField? name value
        readFields? config (name :: seen) fields

/-- The configuration of a form. -/
def ofForm? : Json.Form → Option WalkConfig
  | .object fields => readFields? {} [] fields
  | .array values =>
    if fieldNames.length < values.length then none
    else readFields? {} [] ((fieldNames.map some).zip values)
  | _ => none

/-- Reads a document. -/
def read (document : String) : Except Refusal WalkConfig :=
  match (Json.form? document).bind ofForm? with
  | none => .error .format
  | some config =>
    match config.validate with
    | .ok () => .ok config
    | .error refusal => .error refusal

end WalkConfig
end EntryTree
