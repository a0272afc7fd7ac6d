import EntryTree.Entry.Basic
import EntryTree.Entry.ContentReader

/-!
# Operations on entries

What can be asked of an entry, what it answers, and what it remembers. Saved content, received
signals and the deletion are effects that an entry keeps; everything else about it stays as it is.

New content comes as a feed, which is polled until it ends. Saving looks at its scope before every
poll, all other operations look at it once.
-/

namespace EntryTree

/-- What an entry remembers. -/
structure Effects where
  saved : List UInt8 := []
  deleted : Bool := false
  signals : List String := []
  deriving DecidableEq, Repr

/-- A stream of bytes, poll by poll. -/
inductive Feed
  /-- Brings bytes and ends. -/
  | last (bytes : List UInt8)
  /-- Brings bytes and fails. -/
  | broken (bytes : List UInt8) (message : String)
  /-- Brings bytes and goes on later. Until then the scope of the reader may be cancelled. -/
  | more (bytes : List UInt8) (cancels : Bool) (rest : Feed)

/-- Collects a feed behind the bytes that came before. The scope is looked at before every poll. -/
def Feed.collect (cancelled : Bool) (before : List UInt8) (feed : Feed) :
    Except Fault (List UInt8) :=
  if cancelled then .error .cancelled
  else
    match feed with
    | .last bytes => .ok (before ++ bytes)
    | .broken _ message => .error (.io message)
    | .more bytes cancels rest => rest.collect cancels (before ++ bytes)

/-- Something asked of an entry. -/
inductive Operation
  | list
  | metadata
  | openContent
  | readBlock (size offset : Nat)
  /-- Replaces the content by what a feed brings. -/
  | saveFrom (feed : Feed)
  | exec
  | stream
  | delete
  | signal (name : String)

/-- The answer to an operation that succeeded. -/
inductive Reply
  | children (entries : List Entry)
  | metadata (fields : Json.Fields)
  | content (reader : ContentReader)
  | bytes (bytes : List UInt8)
  /-- The output of a command that has finished, and its exit code. -/
  | finished (output : List UInt8) (code : Int)
  | done

namespace Operation

/-- Replaces the content by data that comes at once, and may fail after it. -/
def save (data : List UInt8) (failure : Option String) : Operation :=
  .saveFrom (match failure with
    | none => .last data
    | some message => .broken data message)

/-- The contract that an operation belongs to. -/
def capability : Operation → Capability
  | .list => .group
  | .metadata => .resource
  | .openContent => .readable
  | .readBlock .. => .blockReadable
  | .saveFrom _ => .writable
  | .exec => .execable
  | .stream => .streamable
  | .delete => .deletable
  | .signal _ => .signalable

/-- The verb that an entry without the contract reports as missing. -/
def verb : Operation → String
  | .list => "list"
  | .metadata => "metadata"
  | .openContent => "read"
  | .readBlock .. => "read"
  | .saveFrom _ => "write"
  | .exec => "exec"
  | .stream => "stream"
  | .delete => "delete"
  | .signal _ => "signal"

end Operation

namespace Entry

/-- The size of the content, as far as there is any. -/
def blockSize (entry : Entry) : Nat :=
  match entry.profile.content with
  | some content => content.bytes.length
  | none => 0

/-- The bytes of a block of content: from an offset on, or from the end, as many as asked for, or as
there are. -/
def block (bytes : List UInt8) (size offset : Nat) : List UInt8 :=
  let start := min ((Address.ofOffset? offset).getD Address.last) bytes.length
  let stop := min (Address.after start size) bytes.length
  bytes.extract start stop

/-- The fault of an entry that is asked for what it does not have. -/
def lacking (entry : Entry) (operation : Operation) : Fault :=
  .notSupported entry.name operation.verb

/-- Serves an operation in a scope that may be cancelled. Saving looks at the contract before the
scope, all other operations look at the scope first. Content serves both ways of reading, whatever
way it was given for. -/
def serve (entry : Entry) (cancelled : Bool) : Operation → ExceptT Fault (StateM Effects) Reply
  | .list => do
    check
    match entry.group? with
    | some (⟨_, some fault⟩, _) => throw fault
    | some (⟨_, none⟩, children) => return .children children
    | none => throw (entry.lacking .list)
  | .metadata => do
    check
    match entry.profile.metadata with
    | some ⟨_, .ok fields⟩ => return .metadata fields
    | some ⟨_, .error fault⟩ => throw fault
    | none => throw (entry.lacking .metadata)
  | .openContent => do
    check
    match entry.profile.content with
    | some content => return .content (.ofBytes content.bytes)
    | none => throw (entry.lacking .openContent)
  | .readBlock size offset => do
    check
    match entry.profile.content with
    | some content => return .bytes (block content.bytes size offset)
    | none => throw (entry.lacking (.readBlock size offset))
  | .saveFrom feed => do
    unless entry.profile.writable do throw (entry.lacking (.saveFrom feed))
    match feed.collect cancelled [] with
    | .ok data =>
      modify fun effects => { effects with saved := data }
      return .done
    | .error fault => throw fault
  | .exec => do
    check
    match entry.profile.execution with
    | some (code, output) => return .finished output code
    | none => throw (entry.lacking .exec)
  | .stream => do
    check
    match entry.profile.stream with
    | some bytes => return .bytes bytes
    | none => throw (entry.lacking .stream)
  | .delete => do
    check
    unless entry.profile.deletable do throw (entry.lacking .delete)
    modify fun effects => { effects with deleted := true }
    return .done
  | .signal name => do
    check
    unless entry.profile.signalable do throw (entry.lacking (.signal name))
    modify fun effects => { effects with signals := effects.signals ++ [name] }
    return .done
where
  check : ExceptT Fault (StateM Effects) Unit := if cancelled then throw .cancelled else pure ()

/-- Asks an entry for something in a scope that may be cancelled: what it answers, and what it
remembers then. -/
def perform (entry : Entry) (cancelled : Bool) (effects : Effects) (operation : Operation) :
    Except Fault Reply × Effects :=
  (entry.serve cancelled operation).run.run effects

/-- Asks an entry through the contract of the operation, which has to be satisfied. -/
def request? (entry : Entry) (cancelled : Bool) (effects : Effects) (operation : Operation) :
    Option (Except Fault Reply × Effects) :=
  if entry.satisfies operation.capability then some (entry.perform cancelled effects operation)
  else none

end Entry
end EntryTree
