import EntryTree.Command.Process

/-!
# The machine that commands run on

Processes take turns on one machine. What they write is noted with the time of the writing, so that
processes which run side by side can be run one after the other: whoever reads what they wrote
reads it in the order of time. Time passes only for those who sleep or wait.

The files are those of a small system. The contents of a file are known if a process wrote it.
-/

namespace EntryTree.Command

/-- Where a descriptor leads. -/
inductive Channel
  /-- To a stream of writes, by its number. -/
  | sink (number : Nat)
  /-- From a stream of reads, by its number. -/
  | source (number : Nat)
  | file (path : String)
  /-- From and to the device that holds nothing. -/
  | null
  /-- From the device of zeros. -/
  | zero
  /-- To the device without space. -/
  | full
  deriving DecidableEq, Repr

/-- Data that was written. -/
structure Emission where
  sink : Nat
  time : Nat
  /-- The background job that wrote it, or zero. -/
  job : Nat
  data : String

/-- Data that can be read from a time on. -/
structure Supply where
  time : Nat
  data : String

/-- A signal on its way to a process. -/
structure Delivery where
  process : Nat
  signal : Nat
  time : Nat

/-- A process that was started in the background. It has run as far as it would, and ends when
its time has come, or earlier if a signal ends it. -/
structure BackgroundJob where
  process : Nat
  /-- The mark of what it writes. -/
  mark : Nat
  status : ProcessStatus
  /-- When it ends. -/
  finish : Nat
  /-- Somebody has waited for its end. -/
  reaped : Bool
  /-- The signals that do nothing to it. -/
  ignored : List Nat

/-- The state of the machine. -/
structure Machine where
  /-- The time of the process that runs, in microseconds. -/
  clock : Nat
  /-- The background job that runs, or zero. -/
  job : Nat
  /-- What was written and not read yet, newest first. -/
  emissions : List Emission
  /-- What is left to read of each source. -/
  sources : List (Nat × List Supply)
  /-- The files that were written, by path. -/
  files : List (String × String)
  /-- The directories that were made. -/
  directories : List String
  /-- The number of the next stream or process. -/
  fresh : Nat
  deliveries : List Delivery
  /-- The shells that are running. -/
  shells : List Nat
  jobs : List BackgroundJob
  /-- How many commands may still be run. -/
  budget : Nat

/-- What a process does to the machine. -/
abbrev Act := StateM Machine

/-- What writing comes to. -/
inductive WriteOutcome
  | written
  | badDescriptor
  | noSpace
  deriving DecidableEq

namespace Machine

/-- The standard output and the standard error of the first process. -/
def standardOutput : Nat := 1

/-- The standard error of the first process. -/
def standardError : Nat := 2

/-- The number of the first process. -/
def firstProcess : Nat := 4000

/-- How many commands a script may run before it is taken to run forever. -/
def patience : Nat := 200000

/-- How many commands a process may run which something else may end. -/
def sharedPatience : Nat := 20000

/-- A time that does not come. -/
def never : Nat := 1000000000000000

/-- The machine before anything has run, with what can be read of source zero. -/
def initial (input : String) : Machine where
  clock := 0
  job := 0
  emissions := []
  sources := [(0, [⟨0, input⟩])]
  files := []
  directories := []
  fresh := firstProcess
  deliveries := []
  shells := []
  jobs := []
  budget := patience

/-- A number that was not used yet. -/
def number : Act Nat :=
  modifyGet fun machine => (machine.fresh, { machine with fresh := machine.fresh + 1 })

/-- Lets the time of the running process go on to a time that is not over yet. -/
def waitUntil (time : Nat) : Act Unit :=
  modify fun machine => { machine with clock := max machine.clock time }

/-- Notes that data was written to a sink. -/
def emit (sink : Nat) (data : String) : Act Unit :=
  modify fun machine =>
    if data.isEmpty then machine
    else
      { machine with
        emissions := ⟨sink, machine.clock, machine.job, data⟩ :: machine.emissions }

/-- Takes what was written to a sink, in the order of time. -/
def collect (sink : Nat) : Act (List Supply) :=
  modifyGet fun machine =>
    let (taken, left) := machine.emissions.partition (·.sink = sink)
    let ordered := taken.reverse.mergeSort fun first second => first.time ≤ second.time
    (ordered.map fun emission => ⟨emission.time, emission.data⟩, { machine with emissions := left })

/-- Makes a source of what can be read. -/
def supply (supplies : List Supply) : Act Nat := do
  let number ← number
  modify fun machine => { machine with sources := (number, supplies) :: machine.sources }
  return number

/-- What is left to read of a source. -/
def rest (source : Nat) : Act (List Supply) :=
  return ((← get).sources.lookup source).getD []

/-- Sets what is left to read of a source. -/
def setRest (source : Nat) (supplies : List Supply) : Act Unit :=
  modify fun machine =>
    { machine with
      sources := machine.sources.map fun (number, old) =>
        if number = source then (number, supplies) else (number, old) }

/-- Appends data to a file. -/
def appendFile (path data : String) : Act Unit :=
  modify fun machine =>
    match machine.files.lookup path with
    | some old =>
      { machine with
        files := machine.files.map fun (name, content) =>
          if name = path then (name, old ++ data) else (name, content) }
    | none => { machine with files := machine.files ++ [(path, data)] }

/-- Sets the contents of a file. -/
def setFile (path data : String) : Act Unit :=
  modify fun machine =>
    { machine with files := machine.files.filter (·.1 != path) ++ [(path, data)] }

/-! ### Signals -/

/-- Whether a signal ends a process that does not handle it. -/
def isFatal (signal : Nat) : Bool :=
  signal != 0 && !harmlessSignals.contains signal

/-- Sends a signal to a process; whether there is one. A background job that has not ended yet is
ended by it, and what it would have written later is not written. -/
def send (process signal : Nat) : Act Bool :=
  modifyGet fun machine =>
    if machine.shells.contains process then
      (true,
        { machine with
          deliveries := machine.deliveries ++ [⟨process, signal, machine.clock⟩] })
    else
      match machine.jobs.find? (·.process = process) with
      | none => (false, machine)
      | some job =>
        if job.reaped || job.finish < machine.clock then (false, machine)
        else if isFatal signal && !job.ignored.contains signal && machine.clock < job.finish then
          let ended := { job with status := .signalled signal, finish := machine.clock }
          (true,
            { machine with
              jobs := machine.jobs.map fun other =>
                if other.process = process then ended else other
              emissions := machine.emissions.filter fun emission =>
                !(emission.job = job.mark && machine.clock < emission.time) })
        else (true, machine)

/-- Notes that somebody has waited for the end of a background job. -/
def reap (process : Nat) : Act Unit :=
  modify fun machine =>
    { machine with
      jobs := machine.jobs.map fun job =>
        if job.process = process then { job with reaped := true } else job }

/-! ### Files -/

/-- What there is under a path. -/
inductive NodeKind
  | directory
  | file
  | program
  | device
  deriving DecidableEq, Repr

/-- The directories of the system. -/
def systemDirectories : List String :=
  ["/", "/bin", "/boot", "/dev", "/etc", "/home", "/lib", "/lib64", "/media", "/mnt", "/opt",
    "/proc", "/root", "/run", "/sbin", "/srv", "/sys", "/tmp", "/usr", "/usr/bin", "/usr/include",
    "/usr/lib", "/usr/local", "/usr/local/bin", "/usr/sbin", "/usr/share", "/usr/src", "/var",
    "/var/lib", "/var/log", "/var/tmp", "/dev/shm", "/dev/fd", "/etc/init.d"]

/-- The files of the system that cannot be run. -/
def systemFiles : List String :=
  ["/etc/passwd", "/etc/group", "/etc/hosts", "/etc/hostname", "/etc/shadow", "/etc/fstab",
    "/etc/os-release", "/etc/profile", "/etc/resolv.conf", "/etc/debian_version", "/etc/issue"]

/-- The devices of the system. -/
def systemDevices : List String :=
  ["/dev/null", "/dev/zero", "/dev/full", "/dev/random", "/dev/urandom", "/dev/tty", "/dev/stdin",
    "/dev/stdout", "/dev/stderr"]

/-- The names of the programs of the system. -/
def programNames : List String :=
  ["sh", "dash", "bash", "true", "false", "echo", "printf", "cat", "head", "tail", "seq", "wc",
    "sort", "uniq", "tr", "cut", "tee", "yes", "basename", "dirname", "expr", "test", "[", "env",
    "printenv", "pwd", "sleep", "timeout", "nohup", "nice", "stdbuf", "setsid", "xargs", "rev",
    "tac", "nl", "fold", "id", "whoami", "uname", "ls", "mkdir", "rmdir", "rm", "touch", "cp",
    "mv", "grep", "egrep", "fgrep", "sed", "dd", "base64", "paste", "od", "readlink", "realpath",
    "chmod", "mktemp", "date", "find", "perl", "hostname", "nproc", "sync", "stat", "truncate",
    "md5sum", "sha256sum", "ln", "awk", "mawk", "diff", "cmp", "kill", "ps", "tty", "arch",
    "logname", "comm", "join", "split", "shuf", "factor", "numfmt", "cksum", "install", "which",
    "getconf", "locale", "clear"]

/-- The paths of the system. -/
def systemPaths : List String :=
  systemDirectories ++ systemFiles ++ systemDevices ++
    programNames.flatMap fun name => ["/usr/bin/" ++ name, "/bin/" ++ name]

/-- The descriptor that a path stands for in every process. -/
def deviceDescriptor? (path : String) : Option Nat :=
  let devices := [("/dev/stdin", 0), ("/dev/stdout", 1), ("/dev/stderr", 2)]
  let numbered := [0, 1, 2].flatMap fun (number : Nat) =>
    [(s!"/dev/fd/{number}", number), (s!"/proc/self/fd/{number}", number)]
  (devices ++ numbered).lookup path

/-- The path that a path means in a directory: without steps to the same or the upper directory. -/
def resolve (directory path : String) : String :=
  let whole := if path.startsWith "/" then path else directory ++ "/" ++ path
  let steps := whole.splitToList (· == '/')
  let walk (made : List String) (step : String) : List String :=
    if step = "" || step = "." then made else if step = ".." then made.tail else step :: made
  "/" ++ "/".intercalate (steps.foldl walk []).reverse

/-- The directory that holds a path. -/
def parent (path : String) : String :=
  resolve path ".."

/-- What there is under a resolved path. -/
def kind? (machine : Machine) (path : String) : Option NodeKind :=
  if systemDirectories.contains path || machine.directories.contains path then some .directory
  else if systemDevices.contains path then some .device
  else if (machine.files.lookup path).isSome || systemFiles.contains path then some .file
  else if ["/usr/bin", "/bin"].contains (parent path) &&
      programNames.any (fun name => path.endsWith ("/" ++ name)) then some .program
  else none

/-- The contents of a resolved path as far as they are known. -/
def contents (machine : Machine) (path : String) : String :=
  match machine.files.lookup path with
  | some content => content
  | none =>
    if path = "/etc/passwd" then "root:x:0:0:root:/root:/bin/bash\n"
    else if path = "/etc/hostname" then "localhost\n"
    else ""

/-- What a path that is opened for reading leads to, or why it cannot be opened. -/
def openToRead (directory path : String) : Act (Except String Channel) := do
  let machine ← get
  let resolved := resolve directory path
  if path.isEmpty then return .error "No such file or directory"
  else if resolved = "/dev/null" then return .ok .null
  else if resolved = "/dev/zero" || resolved = "/dev/full" then return .ok .zero
  else
    match machine.kind? resolved with
    | none =>
      if machine.kind? (parent resolved) matches some .file | some .device then
        return .error "Not a directory"
      else return .error "No such file or directory"
    | some .directory => return .ok (.file resolved)
    | some _ => return .ok (.source (← supply [⟨0, machine.contents resolved⟩]))

/-- What a path that is opened for writing leads to, or why it cannot be opened. -/
def openToWrite (directory path : String) (keep : Bool) : Act (Except String Channel) := do
  let machine ← get
  let resolved := resolve directory path
  if path.isEmpty then return .error "No such file or directory"
  else if resolved = "/dev/null" || resolved = "/dev/zero" then return .ok .null
  else if resolved = "/dev/full" then return .ok .full
  else
    match machine.kind? resolved with
    | some .directory => return .error "Is a directory"
    | found =>
      match machine.kind? (parent resolved) with
      | some .directory =>
        if path.endsWith "/" then return .error "Is a directory"
        else
          let old := if keep && found.isSome then machine.contents resolved else ""
          setFile resolved old
          return .ok (.file resolved)
      | some _ => return .error "Not a directory"
      | none => return .error "No such file or directory"

/-! ### Reading and writing -/

/-- Writes data to where a descriptor leads. -/
def writeTo (channel : Option Channel) (data : String) : Act WriteOutcome := do
  match channel with
  | some (.sink number) =>
    emit number data
    return .written
  | some (.file path) =>
    appendFile path data
    return .written
  | some .null => return .written
  | some .full => return if data.isEmpty then .written else .noSpace
  | _ => return .badDescriptor

/-- How much is read of the device of zeros by those who would read all of it. -/
def manyZeros : Nat := 1048576

/-- Takes all that can be read from where a descriptor leads. -/
def readAll (channel : Option Channel) : Act (List Supply) := do
  match channel with
  | some (.source number) =>
    let supplies ← rest number
    setRest number []
    return supplies
  | some .zero =>
    return [⟨0, String.ofList (List.replicate manyZeros '\x00')⟩]
  | _ => return []

/-- Takes all that can be read as one text, waiting for the last of it. -/
def readText (channel : Option Channel) : Act String := do
  let supplies ← readAll channel
  for supply in supplies do
    waitUntil supply.time
  return String.join (supplies.map (·.data))

/-- Takes a number of characters, waiting for them. -/
def readCount (channel : Option Channel) (count : Nat) : Act String := do
  match channel with
  | some (.source number) =>
    let (taken, left, time) := split count (← rest number)
    setRest number left
    waitUntil time
    return String.ofList taken
  | some .zero => return String.ofList (List.replicate count '\x00')
  | _ => return ""
where
  split (count : Nat) : List Supply → List Char × List Supply × Nat
    | [] => ([], [], 0)
    | supply :: supplies =>
      if count = 0 then ([], supply :: supplies, 0)
      else
        let characters := supply.data.toList
        if count < characters.length then
          (characters.take count, ⟨supply.time, String.ofList (characters.drop count)⟩ :: supplies,
            supply.time)
        else
          let (taken, left, time) := split (count - characters.length) supplies
          (characters ++ taken, left, max supply.time time)

/-- Takes characters up to the end of a line, waiting for them; and whether the line had an end. -/
def readLine (channel : Option Channel) : Act (String × Bool) := do
  match channel with
  | some (.source number) =>
    let (taken, left, time, ended) := split (← rest number)
    setRest number left
    waitUntil time
    return (String.ofList taken, ended)
  | _ => return ("", false)
where
  split : List Supply → List Char × List Supply × Nat × Bool
    | [] => ([], [], 0, false)
    | supply :: supplies =>
      let characters := supply.data.toList
      match characters.dropWhile (· != '\n') with
      | _ :: behind =>
        (characters.takeWhile (· != '\n'),
          (if behind.isEmpty then supplies else ⟨supply.time, String.ofList behind⟩ :: supplies),
          supply.time, true)
      | [] =>
        let (taken, left, time, ended) := split supplies
        (characters ++ taken, left, max supply.time time, ended)

end Machine
end EntryTree.Command
