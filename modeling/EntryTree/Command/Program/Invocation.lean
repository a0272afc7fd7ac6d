import EntryTree.Command.Machine

/-!
# Invocations of programs

What a program is started with: its arguments, its environment, the directory it runs in, and
where its descriptors lead. Most programs read their options in one and the same way.
-/

namespace EntryTree.Command

/-- What a program is started with. -/
structure Invocation where
  /-- The name that the program was called by. -/
  name : String
  /-- The path of the file that holds the program. -/
  path : String
  arguments : List String
  environment : List (String × String)
  directory : String
  channels : List (Nat × Channel)
  /-- The number of the process. -/
  process : Nat
  /-- The signals that the process ignores from its beginning. -/
  ignored : List Nat

/-- A program: what it does to the machine when it is started, and how it ends. -/
abbrev Program := Invocation → Act ProcessStatus

namespace Invocation

/-- Where a descriptor leads. -/
def channel (invocation : Invocation) (descriptor : Nat) : Option Channel :=
  invocation.channels.lookup descriptor

/-- The last step of the name that the program was called by. -/
def shortName (invocation : Invocation) : String :=
  (invocation.name.splitToList (· == '/')).getLast?.getD invocation.name

/-- Writes a text to the standard error. -/
def complain (invocation : Invocation) (text : String) : Act Unit :=
  discard (Machine.writeTo (invocation.channel 2) text)

/-- Complains in the name of the program. -/
def fail (invocation : Invocation) (message : String) (code : Nat) : Act ProcessStatus := do
  invocation.complain s!"{invocation.name}: {message}\n"
  return .exited code

/-- Complains and points to the help. -/
def refuse (invocation : Invocation) (message : String) (code : Nat) : Act ProcessStatus := do
  invocation.complain
    s!"{invocation.name}: {message}\nTry '{invocation.name} --help' for more information.\n"
  return .exited code

/-- Writes a text to the standard output; a code for the end of the program. -/
def print (invocation : Invocation) (text : String) (code : Nat) : Act ProcessStatus := do
  if text.isEmpty then return .exited code
  else
    match ← Machine.writeTo (invocation.channel 1) text with
    | .written => return .exited code
    | .badDescriptor => invocation.fail "write error: Bad file descriptor" 1
    | .noSpace => invocation.fail "write error: No space left on device" 1

/-- The standard input as one text. -/
def input (invocation : Invocation) : Act String :=
  Machine.readText (invocation.channel 0)

/-- The contents of a file, of the standard input if the name is a hyphen. -/
def read (invocation : Invocation) (name : String) : Act (Except String String) := do
  if name = "-" || Machine.deviceDescriptor? name = some 0 then return .ok (← invocation.input)
  else
    match ← Machine.openToRead invocation.directory name with
    | .error message => return .error message
    | .ok (.file _) => return .error "Is a directory"
    | .ok channel => return .ok (← Machine.readText (some channel))

end Invocation

/-- The options of a program: the letters, which of them take a value, and the long names. -/
structure OptionTable where
  flags : String
  valued : String
  long : List (String × Char)

/-- The options and the other arguments of an invocation. -/
structure Parsed where
  options : List (Char × String)
  operands : List String

namespace Parsed

/-- Whether an option was given. -/
def has (parsed : Parsed) (option : Char) : Bool :=
  parsed.options.any (·.1 == option)

/-- The value that was given last for an option. -/
def value? (parsed : Parsed) (option : Char) : Option String :=
  (parsed.options.reverse.find? (·.1 == option)).map Prod.snd

end Parsed

namespace OptionTable

/-- Reads the letters of one argument; the options and whether the last one lacks its value. -/
def letters (table : OptionTable) : List Char → Except String (List (Char × String) × Option Char)
  | [] => .ok ([], none)
  | c :: rest =>
    if table.valued.contains c then
      if rest.isEmpty then .ok ([], some c) else .ok ([(c, String.ofList rest)], none)
    else if table.flags.contains c then do
      let (options, lacking) ← letters table rest
      return ((c, "") :: options, lacking)
    else .error s!"invalid option -- '{c}'"

/-- An option that lacks its value, and the complaint if there is none. -/
structure Lacking where
  option : Char
  complaint : String

/-- Reads the arguments of an invocation. `permuted` looks for options behind other arguments, and
`lacking` is the option that the next argument belongs to. -/
def parse (table : OptionTable) (permuted : Bool) (lacking : Option Lacking) :
    List String → Except String Parsed
  | [] =>
    match lacking with
    | some lacking => .error lacking.complaint
    | none => .ok ⟨[], []⟩
  | argument :: rest =>
    match lacking with
    | some lacking => add [(lacking.option, argument)] (parse table permuted none rest)
    | none =>
      match argument.toList with
      | ['-', '-'] => .ok ⟨[], rest⟩
      | '-' :: '-' :: name =>
        let text := String.ofList name
        let key := String.ofList (name.takeWhile (· != '='))
        match table.long.find? (fun (long, _) => long.startsWith key) with
        | some (_, letter) =>
          if table.valued.contains letter then
            match name.dropWhile (· != '=') with
            | _ :: value =>
              add [(letter, String.ofList value)] (parse table permuted none rest)
            | [] =>
              parse table permuted (some ⟨letter, s!"option '--{text}' requires an argument"⟩) rest
          else add [(letter, "")] (parse table permuted none rest)
        | none => .error s!"unrecognized option '--{text}'"
      | '-' :: c :: letters =>
        match table.letters (c :: letters) with
        | .error message => .error message
        | .ok (options, none) => add options (parse table permuted none rest)
        | .ok (options, some letter) =>
          add options
            (parse table permuted
              (some ⟨letter, s!"option requires an argument -- '{letter}'"⟩) rest)
      | _ =>
        if permuted then
          (parse table permuted none rest).map fun parsed =>
            { parsed with operands := argument :: parsed.operands }
        else .ok ⟨[], argument :: rest⟩
where
  add (options : List (Char × String)) : Except String Parsed → Except String Parsed
    | .ok parsed => .ok { parsed with options := options ++ parsed.options }
    | .error message => .error message

end OptionTable

namespace Invocation

/-- Reads the options and goes on with them, or refuses the invocation. -/
def withOptions (invocation : Invocation) (table : OptionTable) (code : Nat)
    (body : Parsed → Act ProcessStatus) : Act ProcessStatus :=
  match table.parse true none invocation.arguments with
  | .ok parsed => body parsed
  | .error message => invocation.refuse message code

end Invocation
end EntryTree.Command
