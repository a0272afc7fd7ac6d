import EntryTree.Command.Program.Stream

/-!
# Showing bytes

`od` shows what it reads as numbers or characters, a row of bytes in a line behind the number of
bytes before it.
-/

namespace EntryTree.Command

/-- How bytes are shown: as characters, or as little-endian numbers of some bytes in a base. -/
inductive ByteForm
  | characters
  | number (letter : Char) (size : Nat)

namespace ByteForm

/-- Reads a form. -/
def read? (text : String) : Option ByteForm :=
  match text.toList with
  | ['c'] => some .characters
  | letter :: rest =>
    let size? : Option Nat :=
      match rest with
      | [] => some 4
      | ['1'] | ['C'] => some 1
      | ['2'] | ['S'] => some 2
      | ['4'] | ['I'] => some 4
      | ['8'] | ['L'] => some 8
      | _ => none
    if ['x', 'o', 'd', 'u'].contains letter then size?.map (.number letter ·) else none
  | [] => none

/-- How many bytes are shown in one field. -/
def size : ByteForm → Nat
  | .characters => 1
  | .number _ size => size

/-- The greatest width of a number. -/
def width (letter : Char) (size : Nat) : Nat :=
  match letter with
  | 'x' => 2 * size
  | 'o' => (8 * size + 2) / 3
  | 'u' => (toString (Nat.pow 256 size - 1)).length
  | _ => (toString (Nat.pow 256 size / 2)).length + 1

/-- Shows one character. -/
def character (c : Char) : String :=
  let names := [('\x00', "\\0"), ('\x07', "\\a"), ('\x08', "\\b"), ('\t', "\\t"), ('\n', "\\n"),
    ('\x0b', "\\v"), ('\x0c', "\\f"), ('\r', "\\r")]
  match names.lookup c with
  | some name => name
  | none =>
    if 32 ≤ c.toNat && c.toNat < 127 then c.toString
    else Field.integer { width := 3, zeros := true } 'o' c.toNat

/-- Shows the bytes of one field. -/
def fieldOf (bytes : List Char) : ByteForm → String
  | .characters => " " ++ Field.pad { width := 3 } (String.join (bytes.map character))
  | .number letter size =>
    let value := (bytes.take size).reverse.foldl (fun value c => 256 * value + c.toNat) 0
    let value : Int :=
      if letter = 'd' && Nat.pow 256 size ≤ 2 * value then value - Nat.pow 256 size else value
    let width := width letter size
    " " ++ Field.integer { width, zeros := letter = 'x' || letter = 'o' } letter value

end ByteForm

/-- `od`: the bytes of the input. -/
def dumpBytes : Program := fun invocation =>
  let table : OptionTable :=
    ⟨"bcdosxilv", "AtNjw", [("address-radix", 'A'), ("format", 't'), ("read-bytes", 'N'),
      ("skip-bytes", 'j'), ("output-duplicates", 'v'), ("width", 'w')]⟩
  invocation.withOptions table 1 fun parsed => do
    let (texts, code) ← readInputs invocation parsed.operands plainComplaint
    let traditional := [('b', "o1"), ('c', "c"), ('d', "u2"), ('o', "o2"), ('s', "d2"), ('x', "x2"),
      ('i', "d4"), ('l', "d8")]
    let wanted := (parsed.options.findSome? fun (option, value) =>
      if option = 't' then some value else traditional.lookup option).getD "o2"
    match ByteForm.read? wanted with
    | none => invocation.fail s!"invalid type string '{wanted}'" 1
    | some form =>
      if texts.isEmpty then return .exited code
      let skipped := ((parsed.value? 'j').bind count?).getD 0
      let bytes := (String.join (texts.map Prod.snd)).toList.drop skipped
      let bytes :=
        match (parsed.value? 'N').bind count? with
        | some count => bytes.take count
        | none => bytes
      let address (place : Nat) : String :=
        match parsed.value? 'A' with
        | some "n" => ""
        | some "d" => Field.integer { width := 7, zeros := true } 'u' place
        | some "x" => Field.integer { width := 6, zeros := true } 'x' place
        | _ => Field.integer { width := 7, zeros := true } 'o' place
      let width := ((parsed.value? 'w').bind count?).getD 16
      let body := rows form address width (parsed.has 'v') skipped none false bytes.length bytes
      let ending := address (skipped + bytes.length)
      invocation.print (body ++ if ending.isEmpty then "" else ending ++ "\n") code
where
  rows (form : ByteForm) (address : Nat → String) (width : Nat) (all : Bool) (place : Nat)
      (before : Option (List Char)) (starred : Bool) : Nat → List Char → String
    | 0, _ => ""
    | steps + 1, bytes =>
      let row := bytes.take width
      if row.isEmpty then ""
      else
        let more (starred : Bool) : String :=
          rows form address width all (place + width) (some row) starred steps (bytes.drop width)
        if !all && before = some row && row.length = width then
          (if starred then "" else "*\n") ++ more true
        else
          let groups := (List.range ((row.length + form.size - 1) / form.size)).map fun index =>
            (row.drop (index * form.size)).take form.size
          address place ++ String.join (groups.map (ByteForm.fieldOf · form)) ++ "\n" ++ more false

end EntryTree.Command
