import EntryTree.Command.Program.Files
import EntryTree.Command.Program.Finding

/-!
# Programs that run programs

`env`, `timeout`, `nohup`, `nice`, `stdbuf`, `setsid` and `xargs` start another program with
something changed. `launch` stands for starting a program.
-/

namespace EntryTree.Command

/-- The options of a program that end at its first argument, which names another program. -/
def Invocation.withLeadingOptions (invocation : Invocation) (table : OptionTable) (code : Nat)
    (body : Parsed → Act ProcessStatus) : Act ProcessStatus :=
  match table.parse false none invocation.arguments with
  | .ok parsed => body parsed
  | .error message => invocation.refuse message code

/-- Starts a program and complains if it cannot be started. -/
def startOrComplain (launch : Program) (invocation : Invocation) (own complaint : String)
    (name : String) (arguments : List String) : Act ProcessStatus := do
  match ← invocation.start launch name arguments with
  | .ok status => return status
  | .error fault =>
    invocation.complain s!"{own}: {complaint}'{name}': {fault.reason}\n"
    return .exited fault.code

/-- Puts a variable into an environment. -/
def setVariable (name value : String) (environment : List (String × String)) :
    List (String × String) :=
  if (environment.lookup name).isSome then
    environment.map fun (other, old) => if other = name then (name, value) else (other, old)
  else environment ++ [(name, value)]

/-- `env`: a program in another environment, or the environment itself. -/
def runInEnvironment (launch : Program) : Program := fun invocation =>
  let table : OptionTable :=
    ⟨"i0v", "uCS", [("ignore-environment", 'i'), ("null", '0'), ("unset", 'u'), ("chdir", 'C'),
      ("split-string", 'S'), ("debug", 'v')]⟩
  invocation.withLeadingOptions table 125 fun parsed => do
    let bare := parsed.operands.head? = some "-"
    let operands := if bare then parsed.operands.tail else parsed.operands
    let kept := if bare || parsed.has 'i' then [] else invocation.environment
    let unset := parsed.options.filterMap fun (c, name) => if c = 'u' then some name else none
    let kept := kept.filter fun (name, _) => !unset.contains name
    let assigned := operands.takeWhile (·.contains '=')
    let environment := assigned.foldl (fun environment text =>
      let name := String.ofList (text.toList.takeWhile (· != '='))
      setVariable name (String.ofList (text.toList.drop (name.length + 1))) environment) kept
    let directory := ((parsed.value? 'C').map (Machine.resolve invocation.directory)).getD
      invocation.directory
    match operands.drop assigned.length with
    | [] =>
      let ending := if parsed.has '0' then "\x00" else "\n"
      invocation.print
        (String.join (environment.map fun (name, value) => s!"{name}={value}{ending}")) 0
    | name :: arguments =>
      if (parsed.value? 'C').isSome && (← get).kind? directory != some .directory then
        let wanted := (parsed.value? 'C').getD ""
        invocation.fail s!"cannot change directory to '{wanted}': No such file or directory" 125
      else
        startOrComplain launch { invocation with environment, directory } invocation.name "" name
          arguments

/-- The number of a signal by its name or number. -/
def signalOf? (text : String) : Option Nat :=
  let name := text.toUpper
  let short := if name.startsWith "SIG" then (name.drop 3).toString else name
  match text.toNat? with
  | some number => if number ≤ lastSignal then some number else none
  | none => (signalNames.findIdx? (· == short)).map (· + 1)

/-- `timeout`: a program that is ended if it runs too long. -/
def limitTime (launch : Program) : Program := fun invocation =>
  let table : OptionTable :=
    ⟨"v", "ks", [("kill-after", 'k'), ("signal", 's'), ("verbose", 'v'), ("preserve-status", 'p'),
      ("foreground", 'f')]⟩
  invocation.withLeadingOptions table 125 fun parsed => do
    match parsed.operands with
    | [] | [_] =>
      invocation.complain s!"Try '{invocation.name} --help' for more information.\n"
      return .exited 125
    | limit :: name :: arguments =>
      match duration? limit, signalOf? ((parsed.value? 's').getD "TERM") with
      | none, _ => invocation.refuse s!"invalid time interval '{limit}'" 125
      | _, none =>
        let wrong := (parsed.value? 's').getD ""
        invocation.refuse s!"'{wrong}': invalid signal" 125
      | some limit, some signal =>
        let before ← get
        let mark ← Machine.number
        let process ← Machine.number
        let deadline := before.clock + limit
        let given := min before.budget Machine.sharedPatience
        modify fun machine =>
          { machine with
            budget := given
            job := if limit = 0 then machine.job else mark
            deliveries :=
              if limit = 0 then machine.deliveries
              else machine.deliveries ++ [⟨process, signal, deadline⟩] }
        let status ← startOrComplain launch { invocation with process } invocation.name
          "failed to run command " name arguments
        let seen := !(← get).deliveries.any (·.process = process)
        let late := limit != 0 && deadline < (← get).clock
        let survived := seen && (status matches .exited _)
        modify fun machine =>
          let emissions := machine.emissions.filterMap fun emission =>
            if emission.job != mark then some emission
            else if late && !survived && deadline < emission.time then none
            else some { emission with job := before.job }
          { machine with
            emissions, job := before.job
            clock := if late && !survived then deadline else machine.clock
            budget := before.budget - (given - machine.budget)
            deliveries := machine.deliveries.filter (·.process != process) }
        if !late then return status
        else if signal = killSignal then return .signalled signal
        else if parsed.has 'p' then return .exited (128 + signal)
        else return .exited 124

/-- `nohup`: a program that goes on when its person leaves. -/
def ignoreLeaving (launch : Program) : Program := fun invocation => do
  match invocation.arguments with
  | [] => invocation.refuse "missing operand" 125
  | name :: arguments =>
    startOrComplain launch { invocation with ignored := 1 :: invocation.ignored } invocation.name
      "failed to run command " name arguments

/-- `nice`: a program that leaves more time to others. -/
def runNicely (launch : Program) : Program := fun invocation =>
  let arguments :=
    match invocation.arguments with
    | first :: rest =>
      if first.length > 1 && first.startsWith "-" && (first.drop 1).toString.toNat?.isSome then rest
      else first :: rest
    | [] => []
  let invocation := { invocation with arguments }
  invocation.withLeadingOptions ⟨"", "n", [("adjustment", 'n')]⟩ 125 fun parsed => do
    match parsed.operands with
    | [] => invocation.print "0\n" 0
    | name :: arguments => startOrComplain launch invocation invocation.name "" name arguments

/-- `stdbuf`: a program with other buffers. -/
def runBuffered (launch : Program) : Program := fun invocation =>
  let table : OptionTable := ⟨"", "ioe", [("input", 'i'), ("output", 'o'), ("error", 'e')]⟩
  invocation.withLeadingOptions table 125 fun parsed => do
    match parsed.operands with
    | [] => invocation.refuse "missing operand" 125
    | name :: arguments =>
      if parsed.options.isEmpty then
        invocation.refuse "you must specify a buffering mode option" 125
      else startOrComplain launch invocation invocation.name "failed to run command " name arguments

/-- `setsid`: a program in a session of its own. -/
def runInSession (launch : Program) : Program := fun invocation =>
  invocation.withLeadingOptions ⟨"cfw", "", [("wait", 'w'), ("fork", 'f'), ("ctty", 'c')]⟩ 1
    fun parsed => do
      match parsed.operands with
      | [] => invocation.fail "no command specified" 1
      | name :: arguments =>
        match ← invocation.start launch name arguments with
        | .ok status => return status
        | .error fault => invocation.fail s!"failed to execute {name}: {fault.reason}" fault.code

/-! ### Arguments from the input -/

/-- Splits a text into words at blanks, with quotes and backslashes, within a number of steps; and
a quote that is not closed, if there is one, behind the words. -/
def quotedWords : Nat → Option (List Char) → List Char → List String × Option Char
  | 0, _, _ => ([], none)
  | steps + 1, word, text =>
    let closed : List String := (word.map fun word => [String.ofList word.reverse]).getD []
    match text with
    | [] => (closed, none)
    | '\\' :: c :: rest => quotedWords steps (some (c :: word.getD [])) rest
    | c :: rest =>
      if Numeral.isSpace c then
        let (words, wrong) := quotedWords steps none rest
        (closed ++ words, wrong)
      else if c = '\'' || c = '"' then
        let inner := rest.takeWhile fun other => other != c && other != '\n'
        match rest.drop inner.length with
        | other :: behind =>
          if other = c then quotedWords steps (some (inner.reverse ++ word.getD [])) behind
          else ([], some c)
        | [] => ([], some c)
      else quotedWords steps (some (c :: word.getD [])) rest

/-- Replaces every occurrence of a text. -/
def replaceText (old new text : String) : String :=
  if old.isEmpty then text else new.intercalate (text.splitOn old)

/-- Groups of at most a number of words. -/
def groupsOf (size : Nat) : Nat → List String → List (List String)
  | 0, _ => []
  | steps + 1, words =>
    if words.isEmpty then []
    else words.take size :: groupsOf size steps (words.drop size)

/-- `xargs`: a program with arguments from the input. -/
def runWithInput (launch : Program) : Program := fun invocation =>
  let table : OptionTable :=
    ⟨"0rtxp", "nILdPsaE", [("null", '0'), ("no-run-if-empty", 'r'), ("max-args", 'n'),
      ("replace", 'I'), ("max-lines", 'L'), ("delimiter", 'd'), ("max-procs", 'P'),
      ("verbose", 't')]⟩
  invocation.withLeadingOptions table 1 fun parsed => do
    let text ← invocation.input
    let (name, fixed) :=
      match parsed.operands with
      | [] => ("echo", [])
      | name :: fixed => (name, fixed)
    let isBlank (line : String) : Bool := line.trimAscii.toString.isEmpty
    let lines := (text.splitToList (· == '\n')).filter (!isBlank ·)
    let delimiter? : Option Char :=
      if parsed.has '0' then some '\x00'
      else
        match ((parsed.value? 'd').getD "").toList with
        | ['\\', 'n'] => some '\n'
        | ['\\', 't'] => some '\t'
        | ['\\', '0'] => some '\x00'
        | c :: _ => some c
        | [] => none
    let (words, wrong) : List String × Option Char :=
      match delimiter? with
      | some delimiter =>
        let parts := text.splitToList (· == delimiter)
        (if parts.getLast? = some "" then parts.dropLast else parts, none)
      | none =>
        if (parsed.value? 'I').isSome then
          (lines.map fun line => line.trimAsciiStart.toString, none)
        else quotedWords (text.length + 1) none text.toList
    let size := ((parsed.value? 'n').bind String.toNat?).getD 100000
    let calls : List (List String) :=
      match parsed.value? 'I', (parsed.value? 'L').bind String.toNat? with
      | some mark, _ => words.map fun word => fixed.map (replaceText mark word)
      | none, some count =>
        (groupsOf count (lines.length + 1) lines).map fun lines =>
          fixed ++ lines.flatMap fun line =>
            (quotedWords (line.length + 1) none line.toList).1
      | none, none =>
        if words.isEmpty then if parsed.has 'r' || wrong.isSome then [] else [fixed]
        else (groupsOf size (words.length + 1) words).map (fixed ++ ·)
    let child := { invocation with channels := (0, .null) :: invocation.channels.filter (·.1 != 0) }
    let status ← runAll child name parsed 0 calls
    match wrong with
    | none => return status
    | some quote =>
      let kind := if quote = '"' then "double" else "single"
      invocation.fail (s!"unmatched {kind} quote; by default quotes are special to xargs unless " ++
        "you use the -0 option") 1
where
  runAll (invocation : Invocation) (name : String) (parsed : Parsed) (code : Nat) :
      List (List String) → Act ProcessStatus
    | [] => return .exited code
    | arguments :: calls => do
      if parsed.has 't' then invocation.complain (" ".intercalate (name :: arguments) ++ "\n")
      let process ← Machine.number
      match ← ({ invocation with process }).start launch name arguments with
      | .error fault => invocation.fail s!"{name}: {fault.reason}" fault.code
      | .ok (.exited 0) => runAll invocation name parsed code calls
      | .ok (.exited 255) => invocation.fail s!"{name}: exited with status 255; aborting" 124
      | .ok (.exited _) => runAll invocation name parsed 123 calls
      | .ok (.signalled signal) =>
        invocation.fail s!"{name}: terminated by signal {signal}" 125

end EntryTree.Command
