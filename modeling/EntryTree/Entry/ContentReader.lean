import EntryTree.Fault

/-!
# Content readers

A reader gives random access to content of a stated size: from an offset on it reads into a buffer
what there is and what the buffer has room for, and nothing at or past the end. Reading everything
fills a buffer of the stated size until it is full or a read brings nothing.

Offsets are any numbers, and what memory holds lies at addresses, of which there is a last one. What
cannot be an address lies behind all content.
-/

namespace EntryTree

namespace Address

/-- The last address, as an address has 64 bits. -/
def last : Nat := 0xFFFFFFFFFFFFFFFF

/-- An offset as an address. -/
def ofOffset? (offset : Nat) : Option Nat :=
  if offset ≤ last then some offset else none

/-- The address that lies so far behind another one, or the last one. -/
def after (address distance : Nat) : Nat :=
  min (address + distance) last

end Address

/-- Random access to content. -/
structure ContentReader where
  /-- The size that the reader states. -/
  size : Nat
  /-- Reads into a buffer from an offset on: how many bytes came, and the buffer with these in
  front. -/
  readInto (buffer : List UInt8) (offset : Nat) : Except Fault (Nat × List UInt8)
  /-- A read leaves the room of the buffer as it was. -/
  length_readInto {buffer filled : List UInt8} {offset count : Nat}
    (read : readInto buffer offset = .ok (count, filled)) : filled.length = buffer.length

namespace ContentReader

/-- What a buffer holds after a read: the bytes that came, and what it held before behind them. -/
def fill (buffer bytes : List UInt8) : List UInt8 :=
  bytes ++ buffer.drop bytes.length

theorem length_fill {buffer bytes : List UInt8} (fits : bytes.length ≤ buffer.length) :
    (fill buffer bytes).length = buffer.length := by
  rw [fill, List.length_append, List.length_drop]
  omega

/-- Reads bytes in memory into a buffer. -/
def copyInto (bytes buffer : List UInt8) (offset : Nat) : Nat × List UInt8 :=
  match Address.ofOffset? offset with
  | none => (0, buffer)
  | some start =>
    if bytes.length ≤ start then (0, buffer)
    else
      let count := min buffer.length (bytes.length - start)
      (count, fill buffer (bytes.extract start (start + count)))

theorem length_copyInto (bytes buffer : List UInt8) (offset : Nat) :
    (copyInto bytes buffer offset).2.length = buffer.length := by
  rw [copyInto]
  split
  · rfl
  split
  · rfl
  · apply length_fill
    simp only [List.extract_eq_take_drop, List.length_take, List.length_drop]
    omega

/-- A reader of bytes in memory. -/
def ofBytes (bytes : List UInt8) : ContentReader where
  size := bytes.length
  readInto buffer offset := .ok (copyInto bytes buffer offset)
  length_readInto {buffer _ offset _} read := by
    rw [← length_copyInto bytes buffer offset, Except.ok.inj read]

/-- A reader of bytes in memory that states any size, brings at most `step` bytes at a time, and
fails from an offset on. -/
def stingy (bytes : List UInt8) (step claimed : Nat) (failAt : Option Nat) : ContentReader where
  size := claimed
  readInto buffer offset :=
    if failAt.any (· ≤ offset) then .error (.io "bad sector")
    else
      let copied := copyInto bytes (buffer.take step) offset
      .ok (copied.1, copied.2 ++ buffer.drop step)
  length_readInto read := by
    split at read
    · cases read
    · rw [← (Prod.mk.inj (Except.ok.inj read)).2, List.length_append, length_copyInto,
        ← List.length_append, List.take_append_drop]

/-- The bytes that a read into a new buffer brings. -/
def readAt (reader : ContentReader) (count offset : Nat) : Except Fault (List UInt8) :=
  (reader.readInto (List.replicate count 0) offset).map fun (count, filled) => filled.take count

/-- What is read into a buffer that begins at an offset, until it is full or a read brings
nothing. -/
def fillFrom (reader : ContentReader) (buffer : List UInt8) (offset : Nat) :
    Except Fault (List UInt8) :=
  if buffer.isEmpty then .ok []
  else
    match _read : reader.readInto buffer offset with
    | .error fault => .error fault
    | .ok (count, filled) =>
      if count = 0 then .ok []
      else
        match reader.fillFrom (filled.drop count) (offset + count) with
        | .error fault => .error fault
        | .ok rest => .ok (filled.take count ++ rest)
termination_by buffer.length
decreasing_by
  have kept := reader.length_readInto _read
  have present : 0 < buffer.length :=
    List.length_pos_iff.2 (by simpa using ‹¬buffer.isEmpty = true›)
  rw [List.length_drop]
  omega

/-- Reads everything. -/
def readAll (reader : ContentReader) : Except Fault (List UInt8) :=
  match Address.ofOffset? reader.size with
  | none => .error (.io "content too large")
  | some size => reader.fillFrom (List.replicate size 0) 0

end ContentReader
end EntryTree
