import EntryTree.Command.Program.Stream

/-!
# Programs that deal with files and names

Programs that make, remove, copy and list files, that take paths apart, and that tell something
about the system.
-/

namespace EntryTree.Command

/-- Does something for every operand and complains where it fails. -/
def forOperands (invocation : Invocation) (operands : List String)
    (body : String → Act (Option String)) : Act ProcessStatus := do
  if operands.isEmpty then invocation.refuse "missing operand" 1
  else
    let mut code := 0
    for operand in operands do
      match ← body operand with
      | none => pure ()
      | some message =>
        invocation.complain s!"{invocation.name}: {message}\n"
        code := 1
    return .exited code

/-- Adds a directory to the system. -/
def addDirectory (path : String) : Act Unit :=
  modify fun machine => { machine with directories := machine.directories ++ [path] }

/-- All directories on the way to a path, the uppermost first. -/
def ancestors (path : String) : List String :=
  let steps := (path.splitToList (· == '/')).filter (· != "")
  (List.range steps.length).map fun index => "/" ++ "/".intercalate (steps.take (index + 1))

/-- `mkdir`: directories made. -/
def makeDirectories : Program := fun invocation =>
  invocation.withOptions ⟨"pv", "m", [("parents", 'p')]⟩ 1 fun parsed =>
    forOperands invocation parsed.operands fun name => do
      let machine ← get
      let path := Machine.resolve invocation.directory name
      let refusal (reason : String) : Option String :=
        some s!"cannot create directory '{name}': {reason}"
      if parsed.has 'p' then
        for path in ancestors path do
          if ((← get).kind? path).isNone then addDirectory path
        return none
      else if (machine.kind? path).isSome then return refusal "File exists"
      else
        match machine.kind? (Machine.parent path) with
        | some .directory =>
          addDirectory path
          return none
        | some _ => return refusal "Not a directory"
        | none => return refusal "No such file or directory"

/-- Whether a path lies below a directory. -/
def isBelow (directory path : String) : Bool :=
  path.startsWith (directory ++ "/")

/-- `rmdir`: empty directories removed. -/
def removeDirectories : Program := fun invocation =>
  invocation.withOptions ⟨"pv", "", []⟩ 1 fun parsed =>
    forOperands invocation parsed.operands fun name => do
      let machine ← get
      let path := Machine.resolve invocation.directory name
      let refusal (reason : String) : Option String := some s!"failed to remove '{name}': {reason}"
      match machine.kind? path with
      | none => return refusal "No such file or directory"
      | some .directory =>
        if path = "/" then return refusal "Device or resource busy"
        else if machine.directories.any (isBelow path) || machine.files.any (isBelow path ·.1) ||
            !machine.directories.contains path then return refusal "Directory not empty"
        else
          set { machine with directories := machine.directories.filter (· != path) }
          return none
      | some _ => return refusal "Not a directory"

/-- `rm`: files removed. -/
def remove : Program := fun invocation =>
  invocation.withOptions ⟨"fvriRI", "", [("force", 'f'), ("recursive", 'r')]⟩ 1 fun parsed =>
    if parsed.operands.isEmpty && parsed.has 'f' then return .exited 0
    else
      forOperands invocation parsed.operands fun name => do
        let machine ← get
        let path := Machine.resolve invocation.directory name
        match machine.kind? path with
        | none =>
          return if parsed.has 'f' then none
            else some s!"cannot remove '{name}': No such file or directory"
        | some .directory =>
          if parsed.has 'r' || parsed.has 'R' then
            set { machine with
              directories := machine.directories.filter fun other =>
                other != path && !isBelow path other
              files := machine.files.filter fun (other, _) => !isBelow path other }
            return none
          else return some s!"cannot remove '{name}': Is a directory"
        | some _ =>
          set { machine with files := machine.files.filter fun (other, _) => other != path }
          return none

/-- `touch`: files made if they are not there. -/
def touch : Program := fun invocation =>
  invocation.withOptions ⟨"acm", "dtr", []⟩ 1 fun parsed =>
    if parsed.operands.isEmpty then invocation.refuse "missing file operand" 1
    else
      forOperands invocation parsed.operands fun name => do
        let machine ← get
        if (machine.kind? (Machine.resolve invocation.directory name)).isSome then return none
        else
          match ← Machine.openToWrite invocation.directory name true with
          | .ok _ => return none
          | .error reason => return some s!"cannot touch '{name}': {reason}"

/-- The path that a file is copied to. -/
def destination (machine : Machine) (directory source target : String) : String :=
  let path := Machine.resolve directory target
  if machine.kind? path = some .directory then
    Machine.resolve path ((source.splitToList (· == '/')).getLast?.getD source)
  else path

/-- `cp` and `mv`: files copied, and the old ones removed. -/
def copy (keep : Bool) : Program := fun invocation =>
  invocation.withOptions ⟨"rRafpvn", "", []⟩ 1 fun parsed => do
    match parsed.operands with
    | [] => invocation.refuse "missing file operand" 1
    | [single] => invocation.refuse s!"missing destination file operand after '{single}'" 1
    | operands =>
      let target := operands.getLast?.getD ""
      forOperands invocation operands.dropLast fun name => do
        let machine ← get
        let path := Machine.resolve invocation.directory name
        match machine.kind? path with
        | none => return some s!"cannot stat '{name}': No such file or directory"
        | some .directory => return some s!"-r not specified; omitting directory '{name}'"
        | some _ =>
          let text := machine.contents path
          let goal := destination machine invocation.directory name target
          match ← Machine.openToWrite "/" goal false with
          | .error reason => return some s!"cannot create regular file '{target}': {reason}"
          | .ok channel =>
            discard (Machine.writeTo (some channel) text)
            if !keep then
              modify fun machine =>
                { machine with files := machine.files.filter fun (other, _) => other != path }
            return none

/-- The names of what a directory holds, as far as it is known. -/
def entriesOf (machine : Machine) (directory : String) : List String :=
  let paths :=
    Machine.systemDirectories ++ Machine.systemFiles ++ machine.directories ++
      machine.files.map Prod.fst
  let names := paths.filterMap fun path =>
    if path != "/" && Machine.parent path = directory then (path.splitToList (· == '/')).getLast?
    else none
  (names.mergeSort fun first second => first ≤ second).eraseDups

/-- `ls`: the names in directories. -/
def list : Program := fun invocation =>
  invocation.withOptions ⟨"1aAdlFrtCx", "", []⟩ 2 fun parsed => do
    let machine ← get
    let operands := if parsed.operands.isEmpty then ["."] else parsed.operands
    let mut code := 0
    let mut files := []
    let mut directories := []
    for name in operands do
      match machine.kind? (Machine.resolve invocation.directory name) with
      | none =>
        let reason := "No such file or directory"
        invocation.complain s!"{invocation.name}: cannot access '{name}': {reason}\n"
        code := 2
      | some .directory =>
        if parsed.has 'd' then files := files ++ [name] else directories := directories ++ [name]
      | some _ => files := files ++ [name]
    let titled := 1 < operands.length
    let block (name : String) : String :=
      let names := entriesOf machine (Machine.resolve invocation.directory name)
      let names := names.filter fun name => parsed.has 'a' || parsed.has 'A' || !name.startsWith "."
      let names := if parsed.has 'a' then "." :: ".." :: names else names
      (if titled then name ++ ":\n" else "") ++ joinLines names
    let blocks := (if files.isEmpty then [] else [joinLines files]) ++ directories.map block
    invocation.print ("\n".intercalate blocks) code

/-- A path without slashes at its end. -/
def trimSlashes (path : String) : String :=
  let reversed := path.toList.reverse.dropWhile (· == '/')
  if reversed.isEmpty && !path.isEmpty then "/" else String.ofList reversed.reverse

/-- `basename`: the last step of a path, without an ending. -/
def baseName : Program := fun invocation =>
  invocation.withOptions ⟨"az", "s", [("multiple", 'a'), ("suffix", 's')]⟩ 1 fun parsed => do
    let last (path ending : String) : String :=
      let path := trimSlashes path
      let name := if path = "/" then path else (path.splitToList (· == '/')).getLast?.getD path
      if name != ending && !ending.isEmpty && name.endsWith ending then
        String.ofList (name.toList.take (name.length - ending.length))
      else name
    match parsed.operands with
    | [] => invocation.refuse "missing operand" 1
    | operands =>
      if parsed.has 'a' || parsed.has 's' then
        let ending := (parsed.value? 's').getD ""
        invocation.print (joinLines (operands.map (last · ending))) 0
      else
        match operands with
        | [path] => invocation.print (last path "" ++ "\n") 0
        | [path, ending] => invocation.print (last path ending ++ "\n") 0
        | _ :: _ :: extra :: _ => invocation.refuse s!"extra operand '{extra}'" 1
        | [] => return .exited 1

/-- `dirname`: a path without its last step. -/
def directoryName : Program := fun invocation =>
  invocation.withOptions ⟨"z", "", []⟩ 1 fun parsed => do
    let front (path : String) : String :=
      let path := trimSlashes path
      let reversed := path.toList.reverse.dropWhile (· != '/')
      if path = "/" then "/"
      else if reversed.isEmpty then "."
      else trimSlashes (String.ofList reversed.reverse)
    if parsed.operands.isEmpty then invocation.refuse "missing operand" 1
    else invocation.print (joinLines (parsed.operands.map front)) 0

/-- `pwd`: the directory that the program runs in. -/
def printDirectory : Program := fun invocation =>
  invocation.withOptions ⟨"LP", "", [("logical", 'L'), ("physical", 'P')]⟩ 1 fun parsed => do
    if !parsed.operands.isEmpty then
      invocation.complain s!"{invocation.name}: ignoring non-option arguments\n"
    invocation.print (invocation.directory ++ "\n") 0

/-- `printenv`: the values of variables, or all of them with their names. -/
def printEnvironment : Program := fun invocation =>
  if invocation.arguments.isEmpty then
    invocation.print
      (joinLines (invocation.environment.map fun (name, value) => s!"{name}={value}")) 0
  else do
    let values := invocation.arguments.map fun name => invocation.environment.lookup name
    invocation.print (joinLines (values.filterMap id)) (if values.all Option.isSome then 0 else 1)

/-- `id` and `whoami`: the user, who may do anything. -/
def identity : Program := fun invocation =>
  let named := invocation.arguments.any (·.contains 'n')
  if invocation.shortName = "whoami" || named then invocation.print "root\n" 0
  else if invocation.arguments.isEmpty then
    invocation.print "uid=0(root) gid=0(root) groups=0(root)\n" 0
  else invocation.print "0\n" 0

/-- `uname`: the name of the system. -/
def systemName : Program := fun invocation =>
  if invocation.arguments = ["-m"] then invocation.print "x86_64\n" 0
  else invocation.print "Linux\n" 0

/-- Reads a duration in microseconds: a decimal and a unit. -/
def duration? (text : String) : Option Nat :=
  let numeral := Quotient.read text.toList
  let unit? : Option Nat :=
    match numeral.rest with
    | [] => some 1
    | ['s'] => some 1
    | ['m'] => some 60
    | ['h'] => some 3600
    | ['d'] => some 86400
    | _ => none
  if numeral.rest = text.toList || numeral.value.negative then
    if text = "infinity" || text = "inf" then some 4000000000000000 else none
  else
    unit?.map fun unit => numeral.value.numerator * unit * 1000000 / numeral.value.denominator

/-- `sleep`: time passes. -/
def sleep : Program := fun invocation => do
  if invocation.arguments.isEmpty then invocation.refuse "missing operand" 1
  else
    match invocation.arguments.find? fun text => (duration? text).isNone with
    | some wrong =>
      match wrong.toList with
      | '-' :: c :: _ =>
        if c = '-' then invocation.refuse s!"unrecognized option '{wrong}'" 1
        else invocation.refuse s!"invalid option -- '{c}'" 1
      | _ => invocation.refuse s!"invalid time interval '{wrong}'" 1
    | none =>
      let durations := invocation.arguments.filterMap duration?
      Machine.waitUntil ((← get).clock + durations.foldl (· + ·) 0)
      return .exited 0

/-- `dd`: blocks copied. -/
def copyBlocks : Program := fun invocation => do
  let operand (name : String) : Option String :=
    (invocation.arguments.reverse.find? (·.startsWith (name ++ "="))).map fun text =>
      String.ofList (text.toList.drop (name.length + 1))
  let size := ((operand "bs").bind count?).getD 512
  let input ←
    match operand "if" with
    | none => pure (Except.ok (invocation.channel 0))
    | some name => do
      match ← Machine.openToRead invocation.directory name with
      | .ok channel => pure (Except.ok (some channel))
      | .error message => pure (Except.error (name, message))
  match input with
  | .error (name, message) => invocation.fail s!"failed to open '{name}': {message}" 1
  | .ok input =>
    discard (Machine.readCount input (size * ((operand "skip").bind count?).getD 0))
    let text ←
      match (operand "count").bind count? with
      | some count => Machine.readCount input (size * count)
      | none => Machine.readText input
    let code ←
      match operand "of" with
      | none => invocation.print text 0
      | some name => do
        match ← Machine.openToWrite invocation.directory name false with
        | .error message => invocation.fail s!"failed to open '{name}': {message}" 1
        | .ok channel =>
          discard (Machine.writeTo (some channel) text)
          pure (.exited 0)
    let records := s!"{text.length / size}+{if text.length % size = 0 then 0 else 1}"
    if operand "status" != some "none" then
      invocation.complain s!"{records} records in\n{records} records out\n"
      if operand "status" != some "noxfer" then
        invocation.complain s!"{text.length} bytes copied\n"
    return code

/-- The digits of numbers in base sixty-four. -/
def base64Digits : List Char :=
  "ABCDEFGHIJKLMNOPQRSTUVWXYZabcdefghijklmnopqrstuvwxyz0123456789+/".toList

/-- Three bytes in four digits, filled up at the end. -/
def base64Text : List Char → List Char
  | a :: b :: c :: rest =>
    let value := (a.toNat * 256 + b.toNat) * 256 + c.toNat
    digits value 4 ++ base64Text rest
  | [a, b] => digits ((a.toNat * 256 + b.toNat) * 256) 3 ++ ['=']
  | [a] => digits (a.toNat * 65536) 2 ++ ['=', '=']
  | [] => []
where
  digits (value count : Nat) : List Char :=
    ((List.range 4).map fun index =>
      base64Digits[value / Nat.pow 64 (3 - index) % 64]?.getD '=').take count

/-- The bytes of digits in base sixty-four. -/
def base64Bytes (text : List Char) : List Char :=
  let values := text.filterMap base64Digits.idxOf?
  let rec bytes : List Nat → List Char
    | a :: b :: c :: d :: rest =>
      let value := ((a * 64 + b) * 64 + c) * 64 + d
      Char.ofNat (value / 65536) :: Char.ofNat (value / 256 % 256) :: Char.ofNat (value % 256) ::
        bytes rest
    | [a, b, c] =>
      let value := (a * 64 + b) * 64 + c
      [Char.ofNat (value / 1024), Char.ofNat (value / 4 % 256)]
    | [a, b] => [Char.ofNat ((a * 64 + b) / 16 % 256)]
    | _ => []
  bytes values

/-- `base64`: bytes as digits, or digits as bytes. -/
def base64 : Program := fun invocation =>
  invocation.withOptions ⟨"di", "w", [("decode", 'd'), ("wrap", 'w')]⟩ 1 fun parsed => do
    let (texts, code) ← readInputs invocation (parsed.operands.take 1) plainComplaint
    let text := (String.join (texts.map Prod.snd)).toList
    if parsed.has 'd' then
      let isDigit (c : Char) : Bool := base64Digits.contains c
      let text := text.filter fun c => c != '\n' && (!parsed.has 'i' || isDigit c || c == '=')
      let digits := text.takeWhile isDigit
      let behind := text.drop digits.length
      let padded := behind.all (· == '=') && behind.length < 3
      let valid := padded && (digits.length + behind.length) % 4 = 0
      let status ← invocation.print (String.ofList (base64Bytes digits)) code
      if valid then return status else invocation.fail "invalid input" 1
    else
      let digits := base64Text text
      let width := ((parsed.value? 'w').bind String.toNat?).getD 76
      if digits.isEmpty then return .exited code
      else if width = 0 then invocation.print (String.ofList digits) code
      else
        invocation.print
          (joinLines (foldLines.chunks width (digits.length + 1) digits)) code

end EntryTree.Command
