/-!
# Glob patterns

A pattern is a sequence of parts, each of which stands for a set of byte sequences. Directory
separators are ordinary bytes, except that two stars in a place of their own stand for whole
levels of directories.
-/

namespace EntryTree.Glob

/-- A part of a pattern. -/
inductive Part
  /-- One character, by the bytes of its encoding. -/
  | literal (c : Char)
  /-- Any one byte. -/
  | anyByte
  /-- Any bytes. -/
  | anyBytes
  /-- Any directories in front: nothing, a separator, or bytes that end in one. -/
  | leadingLevels
  /-- A separator and anything below it. -/
  | trailingLevels
  /-- A separator, or two with anything between them. -/
  | innerLevels
  /-- One byte of a class, or one byte outside of it. -/
  | oneOf (negated : Bool) (intervals : List (Char × Char))
  /-- One of several sequences. -/
  | alternatives (branches : List (List Part))

/-- A pattern, part by part. -/
abbrev Pattern := List Part

/-- Why a text is not a pattern. -/
inductive Refusal
  | unclosedClass
  | invalidInterval (first last : Char)
  | unopenedAlternatives
  | unclosedAlternatives
  | danglingEscape
  deriving DecidableEq, Repr

/-- The wording of a refusal. -/
def Refusal.message : Refusal → String
  | .unclosedClass => "unclosed character class; missing ']'"
  | .invalidInterval first last => s!"invalid range; '{first}' > '{last}'"
  | .unopenedAlternatives =>
    "unopened alternate group; missing '\x7b' (maybe escape '\x7d' with '[\x7d]'?)"
  | .unclosedAlternatives =>
    "unclosed alternate group; missing '\x7d' (maybe escape '\x7b' with '[\x7b]'?)"
  | .danglingEscape => "dangling '\\'"

end EntryTree.Glob
