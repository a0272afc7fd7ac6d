import EntryTree.Command.Shell.Builtin.Basic

/-!
# Commands for processes and signals

`kill`, `wait`, `jobs`, `fg`, `bg`, `trap`, `times`, `ulimit` and `umask`.
-/

namespace EntryTree.Command

namespace Builtin

open Shell

/-- The number of a signal that is given by its number or its name, at least `first`. -/
def signalNumber? (first : Nat) (text : String) : Option Nat :=
  let digits := text.toList
  let (value, rest) := Numeral.digits 10 0 digits
  if !digits.isEmpty && rest.isEmpty then
    if first ≤ value && value ≤ lastSignal then some value else none
  else
    let names := if first = 0 then "EXIT" :: shellSignalNames.tail else shellSignalNames
    (names.findIdx? fun name => name == text.toUpper).bind fun value =>
      if first ≤ value then some value else none

/-- The process of the job that an argument names: by its number behind a percent sign, or the
current one. -/
def namedJob (argument : String) : Work Nat := do
  let jobs := (← get).jobs
  let found? :=
    match (argument.toList.drop 1) with
    | [] | ['%'] | ['+'] => jobs.getLast?
    | ['-'] => (jobs.dropLast.getLast?).or jobs.getLast?
    | digits =>
      let (value, rest) := Numeral.digits 10 0 digits
      if rest.isEmpty then jobs.find? (·.1 = value) else none
  match found? with
  | some (_, process) => return process
  | none => abort s!"No such job: {argument}"

/-- How `kill` is used. -/
def killUsage : String :=
  "Usage: kill [-s sigspec | -signum | -sigspec] [pid | job]... or\nkill -l [exitstatus]"

/-- Sends a signal to the processes that arguments name; whether all of them were there. -/
def sendAll (signal : Nat) : List String → Work Bool
  | [] => return true
  | argument :: rest => do
    let found ←
      match argument.toList with
      | '%' :: _ =>
        discard (namedJob argument)
        pure false
      | '-' :: digits =>
        discard (number (String.ofList digits))
        pure false
      | _ => do act (Machine.send (← number argument) signal)
    if !found then complain "No such process\n"
    return (← sendAll signal rest) && found

/-- Tells the name of the signal that a status stands for, or the names of all. -/
def tellSignals : List String → Work Nat
  | [] => do
    say (String.join (shellSignalNames.map (· ++ "\n")))
    return 0
  | argument :: _ => do
    let status ← number argument
    let signal := if 128 < status then status - 128 else status
    match if signal = 0 then none else shellSignalNames[signal]? with
    | some name =>
      say (name ++ "\n")
      return 0
    | none => abort s!"invalid signal number or exit status: {argument}"

/-- `kill`: a signal to processes. -/
def sendSignal : Builtin := fun _ _ arguments => do
  match arguments with
  | [] => abort killUsage
  | first :: rest =>
    match if first.startsWith "-" then signalNumber? 0 (first.drop 1).toString else none with
    | some signal =>
      if first.toUpper = "-EXIT" then abort s!"Illegal option {first.take 2}"
      else deliver signal rest
    | none =>
      let (given, rest) ← options "l" "s" arguments
      let names := given.filterMap fun (letter, value) => if letter = 's' then some value else none
      for name in names do
        if name.toUpper = "EXIT" || (signalNumber? 0 name).isNone then
          abort s!"invalid signal number or name: {name}"
      let signal? := names.getLast?.bind (signalNumber? 0)
      if given.any (·.1 = 'l') then
        if signal?.isSome then abort killUsage else tellSignals rest
      else deliver (signal?.getD endSignal) rest
where
  deliver (signal : Nat) (processes : List String) : Work Nat := do
    if processes.isEmpty then abort killUsage
    else return if ← sendAll signal processes then 0 else 1

/-! ### Waiting -/

/-- The first signal with a handler, or without one but fatal, that arrives before a time. -/
def interruption? (shell : Shell) (time : Nat) : Option Delivery :=
  let matters (delivery : Delivery) : Bool :=
    delivery.process = shell.process && delivery.time ≤ time &&
      !shell.ignored.contains delivery.signal &&
      match shell.traps.lookup delivery.signal with
      | some action => !action.isEmpty
      | none => Machine.isFatal delivery.signal
  let arrivals := shell.machine.deliveries.filter matters
  (arrivals.mergeSort fun first second => first.time ≤ second.time).head?

/-- Waits up to a time; the signal that came before it, if any did. -/
def waitFor (time : Nat) : Work (Option Nat) := do
  match interruption? (← get) time with
  | some delivery =>
    act (Machine.waitUntil delivery.time)
    return some delivery.signal
  | none =>
    act (Machine.waitUntil time)
    return none

/-- The background job of a process. -/
def jobOf? (process : Nat) : Work (Option BackgroundJob) :=
  return (← get).machine.jobs.find? (·.process = process)

/-- Waits for all the processes; the status. -/
def waitForAll : List Nat → Work Nat
  | [] => return 0
  | process :: rest => do
    match ← jobOf? process with
    | none => waitForAll rest
    | some job =>
      match ← waitFor job.finish with
      | some signal => return 128 + signal
      | none =>
        act (Machine.reap process)
        waitForAll rest

/-- Waits for the processes that arguments name; the status of the last one. -/
def waitForNamed (status : Nat) : List String → Work Nat
  | [] => return status
  | argument :: rest => do
    let process ← if argument.startsWith "%" then namedJob argument else number argument
    let known := (← get).jobs.any (·.2 = process)
    let job? ← jobOf? process
    match if known then job? else none with
    | none => waitForNamed 127 rest
    | some job =>
      match ← waitFor job.finish with
      | some signal => return 128 + signal
      | none =>
        act (Machine.reap process)
        tellOf job.status
        waitForNamed job.status.shellCode rest

/-- `wait`: until background jobs have ended. -/
def wait : Builtin := fun _ _ arguments => do
  let (_, names) ← options "" "" arguments
  if names.isEmpty then waitForAll ((← get).jobs.map Prod.snd) else waitForNamed 127 names

/-- How a list of jobs tells about one. -/
def jobState (job : BackgroundJob) (time : Nat) : String :=
  if time < job.finish then "Running"
  else
    match job.status with
    | .exited 0 => "Done"
    | .exited code => s!"Done({code})"
    | .signalled signal => signalDescription signal

/-- `jobs`: the background jobs, newest first. Those that have ended are told of once. -/
def listJobs : Builtin := fun _ _ arguments => do
  let (given, names) ← options "lp" "" arguments
  let shell ← get
  let chosen ←
    if names.isEmpty then pure shell.jobs.reverse
    else do
      let processes ← names.mapM namedJob
      pure (shell.jobs.filter fun (_, process) => processes.contains process)
  for (number, process) in chosen do
    match ← jobOf? process with
    | none => pure ()
    | some job =>
      let mark :=
        if (shell.jobs.getLast?.map Prod.snd) = some process then "+"
        else if (shell.jobs.dropLast.getLast?.map Prod.snd) = some process then "-"
        else " "
      if given.any (·.1 = 'p') then say s!"{process}\n"
      else
        let shown := if given.any (·.1 = 'l') then s!"{process} " else ""
        let state := jobState job shell.machine.clock
        let filled := state ++ String.ofList (List.replicate (27 - state.length) ' ')
        say s!"[{number}] {mark} {shown}{filled}\n"
        if job.finish ≤ shell.machine.clock then
          modify fun shell => { shell with jobs := shell.jobs.filter (·.2 != process) }
  return 0

/-- `fg` and `bg`, which need a person. -/
def moveJob : Builtin := fun _ _ arguments => do
  match arguments with
  | argument :: _ =>
    discard (namedJob argument)
    abort s!"job {argument} not created under job control"
  | [] =>
    match (← get).jobs.getLast? with
    | none => abort "No current job"
    | some _ => abort "job (null) not created under job control"

/-! ### Handlers -/

/-- `trap`: what is done when signals arrive. -/
def setHandlers : Builtin := fun _ _ arguments => do
  let (_, rest) ← options "" "" arguments
  match rest with
  | [] =>
    let traps := (← get).traps.mergeSort fun first second => first.1 ≤ second.1
    let names := "EXIT" :: shellSignalNames.tail
    say (String.join (traps.map fun (signal, action) =>
      let name := names[signal]?.getD ""
      s!"trap -- {quoted action} {name}\n"))
    return 0
  | first :: behind =>
    let (action?, signals) :=
      if behind.isEmpty || (signalNumber? 0 first).isSome && first.toList.all Char.isDigit then
        (none, rest)
      else (some first, behind)
    setAll (action?.filter (· != "-")) signals
where
  setAll (action? : Option String) : List String → Work Nat
    | [] => return 0
    | name :: names => do
      match signalNumber? 0 name with
      | none =>
        report s!"trap: {name}: bad trap\n"
        return 1
      | some signal =>
        modify fun shell =>
          let others := shell.traps.filter (·.1 != signal)
          let traps :=
            match action? with
            | some action => (signal, action) :: others
            | none => others
          { shell with traps }
        setAll action? names

/-! ### Limits -/

/-- `times`: how long the shell and its children have computed. -/
def times : Builtin := fun _ _ _ => do
  say "0m0.000000s 0m0.000000s\n0m0.000000s 0m0.000000s\n"
  return 0

/-- `ulimit`: the limits of processes, of which there are none. -/
def limits : Builtin := fun _ _ arguments => do
  let (_, names) ← options "HSatfdscmlpnvwr" "" arguments
  if names.isEmpty then say "unlimited\n"
  return 0

/-- The rights that a mask leaves to a class of users. -/
def rightsText (digit : Nat) : String :=
  let right (bit : Nat) (letter : String) : String := if digit / bit % 2 = 0 then letter else ""
  right 4 "r" ++ right 2 "w" ++ right 1 "x"

/-- `umask`: the rights that new files do not get. -/
def mask : Builtin := fun _ _ arguments => do
  let (given, names) ← options "S" "" arguments
  let mask := (← get).mask
  match names with
  | [] =>
    if given.isEmpty then
      let digits := [64, 8, 1].map fun place => Nat.digitChar (mask / place % 8)
      say (String.ofList ('0' :: digits) ++ "\n")
    else
      say (s!"u={rightsText (mask / 64 % 8)},g={rightsText (mask / 8 % 8)}," ++
        s!"o={rightsText (mask % 8)}\n")
    return 0
  | text :: _ =>
    let (value, rest) := Numeral.digits 8 0 text.toList
    if rest.isEmpty && value < 512 && !text.isEmpty then
      modify fun shell => { shell with mask := value }
      return 0
    else
      match symbolic? mask text with
      | some value =>
        modify fun shell => { shell with mask := value }
        return 0
      | none => abort s!"Illegal mode: {text}"
where
  symbolic? (mask : Nat) (text : String) : Option Nat :=
    (text.splitToList (· == ',')).foldlM applyClause mask
  applyClause (mask : Nat) (clause : String) : Option Nat := do
    let users := clause.toList.takeWhile fun c => "ugoa".toList.contains c
    let operator :: rights := clause.toList.drop users.length | none
    let rights ← rights.foldlM (fun value c =>
      ([('r', 4), ('w', 2), ('x', 1)].lookup c).map (value ||| ·)) 0
    let places := [('u', 64), ('g', 8), ('o', 1)].filterMap fun (user, place) =>
      if users.isEmpty || users.contains 'a' || users.contains user then some place else none
    places.foldlM (fun mask place =>
      let old := mask / place % 8
      let new? :=
        if operator = '=' then some (7 - rights)
        else if operator = '+' then some (old - (old &&& rights))
        else if operator = '-' then some (old ||| rights)
        else none
      new?.map fun new => mask - old * place + new * place) mask

end Builtin
end EntryTree.Command
