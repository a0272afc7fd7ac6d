import EntryTree.Text.Printable

/-!
# Quoted text

How messages show a piece of their input: between double quotes, with quotes and backslashes
escaped, the common controls by their short escapes, and every character that would not show by
its code point in braces.
-/

namespace EntryTree.Text

/-- The escape that stands for a code point: lower-case hexadecimal digits in braces. -/
def codePointEscape (c : Char) : List Char :=
  ['\\', 'u', '\x7b'] ++ Nat.toDigits 16 c.toNat ++ ['\x7d']

/-- How one character appears between the quotes. -/
def quotedChar (c : Char) : List Char :=
  if c = '"' || c = '\\' then ['\\', c]
  else if c = '\n' then ['\\', 'n']
  else if c = '\t' then ['\\', 't']
  else if c = '\r' then ['\\', 'r']
  else if c = '\x00' then ['\\', '0']
  else if isPrintable c then [c]
  else codePointEscape c

/-- A text between double quotes, with everything escaped that would not show as itself. -/
def quoted (text : String) : String :=
  String.ofList ('"' :: text.toList.flatMap quotedChar ++ ['"'])

end EntryTree.Text
