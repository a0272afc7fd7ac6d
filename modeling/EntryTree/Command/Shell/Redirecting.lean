import EntryTree.Command.Shell.Expansion

/-!
# Redirections

The targets of all redirections of a command are expanded before the first of them is opened. One
that cannot be opened is complained about, and the command is not run.
-/

namespace EntryTree.Command

namespace Shell

/-- A redirection of which the target is expanded. -/
structure Opening where
  descriptor : Nat
  mode : RedirectionMode
  target : String

/-- Expands the targets of redirections. -/
def openingsOf (level : Level) : List Redirection → Work (List Opening)
  | [] => return []
  | .mk descriptor mode word :: rest => do
    let target ←
      if mode = .document then joined (← expandWord level wordDepth word) else singleText level word
    let isDescriptor :=
      match target.toList with
      | [c] => c.isDigit || c = '-'
      | _ => false
    if mode = .duplicate && !isDescriptor then abort "Syntax error: Bad fd number"
    else return ⟨descriptor, mode, target⟩ :: (← openingsOf level rest)

/-- What a person is told about a file that cannot be opened. -/
def openComplaint (creating : Bool) (target message : String) : String :=
  let reason :=
    if message = "No such file or directory" || message = "Not a directory" then
      if creating then "Directory nonexistent" else "No such file"
    else message
  let verb := if creating then "create" else "open"
  s!"cannot {verb} {target}: {reason}"

/-- Where the descriptor of a redirection will lead, nowhere if it is closed; or a complaint. -/
def channelFor (opening : Opening) : Work (Except String (Option Channel)) := do
  let shell ← get
  let opened (creating : Bool) (action : Act (Except String Channel)) :
      Work (Except String (Option Channel)) := do
    match ← act action with
    | .ok channel => return .ok (some channel)
    | .error message => return .error (openComplaint creating opening.target message)
  let resolved := Machine.resolve shell.directory opening.target
  let kind? := shell.machine.kind? resolved
  let device? := if opening.mode = .document then none else Machine.deviceDescriptor? resolved
  if let some channel := device?.bind (shell.channels.lookup ·) then return .ok (some channel)
  match opening.mode with
  | .read => opened false (Machine.openToRead shell.directory opening.target)
  | .write =>
    if shell.options.contains 'C' && kind? = some .file then
      return .error (openComplaint true opening.target "File exists")
    else opened true (Machine.openToWrite shell.directory opening.target false)
  | .append => opened true (Machine.openToWrite shell.directory opening.target true)
  | .readWrite =>
    if kind?.isSome then opened true (Machine.openToRead shell.directory opening.target)
    else opened true (Machine.openToWrite shell.directory opening.target true)
  | .document => return .ok (some (.source (← act (Machine.supply [⟨0, opening.target⟩]))))
  | .duplicate =>
    if opening.target = "-" then return .ok none
    else
      match shell.channels.lookup (opening.target.toNat?.getD 0) with
      | some channel => return .ok (some channel)
      | none => return .error s!"{opening.target}: Bad file descriptor"

/-- Carries out redirections in their order; whether all could be opened. -/
def openAll : List Opening → Work Bool
  | [] => return true
  | opening :: rest => do
    match ← channelFor opening with
    | .ok channel =>
      modify fun shell =>
        { shell with channels := redirectTo opening.descriptor channel shell.channels }
      openAll rest
    | .error message =>
      complain message
      return false

/-- Does something with redirections in effect, if all can be opened. They stay in effect if
`keep` says so; `refused` is done if one cannot be opened. -/
def withRedirections (openings : List Opening) (keep : Bool) (refused body : Work Unit) :
    Work Unit := do
  let before := (← get).channels
  let opened ← openAll openings
  let result ← attempt (if opened then body else pure ())
  if !(keep && opened) then modify fun shell => { shell with channels := before }
  match result with
  | .error leave => throw leave
  | .ok _ => if !opened then refused

end Shell
end EntryTree.Command
