import EntryTree.Entry.Operation
import Mathlib.Algebra.Group.Nat.Defs
import Mathlib.Data.List.Basic

/-!
# Reading content

There are two ways to read from an offset on: through the reader of opened content, which fills a
buffer, and block by block. Either finds on its own, among addresses, where it begins and ends. Both
bring the same part of the content, which is told here by unbounded numbers, whatever the offset and
however large the buffer or the block.

Both can be repeated until nothing comes any more. What is read of everything is then all of the
content, as every read goes on where the one before it has stopped.
-/

namespace EntryTree

/-- The bytes of content from an offset on, so many or as many as there are. -/
def part (bytes : List UInt8) (size offset : Nat) : List UInt8 :=
  bytes.extract (min offset bytes.length) (min (offset + size) bytes.length)

section Part

variable (bytes : List UInt8) (size offset : Nat)

theorem part_eq_take_drop : part bytes size offset = (bytes.drop offset).take size := by
  rw [part, List.extract_eq_take_drop]
  by_cases inside : offset ≤ bytes.length
  · rw [Nat.min_eq_left inside, List.take_eq_take_iff, List.length_drop]
    omega
  · rw [List.drop_eq_nil_of_le (by omega), List.drop_eq_nil_of_le (by omega)]
    simp only [List.take_nil]

theorem length_part : (part bytes size offset).length = min size (bytes.length - offset) := by
  rw [part_eq_take_drop, List.length_take, List.length_drop]

theorem part_eq_nil_of_le {bytes : List UInt8} {offset : Nat} (behind : bytes.length ≤ offset) :
    part bytes size offset = [] := by
  rw [part_eq_take_drop, List.drop_eq_nil_of_le behind, List.take_nil]

theorem extract_eq_part : bytes.extract offset (offset + size) = part bytes size offset := by
  rw [part_eq_take_drop, List.extract_eq_take_drop, Nat.add_sub_cancel_left]

/-- To ask for no more than there is brings the same. -/
theorem part_length_part :
    part bytes (part bytes size offset).length offset = part bytes size offset := by
  rw [length_part, part_eq_take_drop, part_eq_take_drop, List.take_eq_take_iff, List.length_drop]
  omega

/-- A part in two pieces. -/
theorem part_append (more : Nat) :
    part bytes size offset ++ part bytes more (offset + size) =
      part bytes (size + more) offset := by
  rw [part_eq_take_drop, part_eq_take_drop, part_eq_take_drop, List.take_add, List.drop_drop]

end Part

namespace ContentReader

variable {reader : ContentReader} {bytes buffer : List UInt8} {offset : Nat}

/-! ## Filling a buffer -/

theorem copyInto_eq_part (addressed : bytes.length ≤ Address.last) (buffer : List UInt8)
    (offset : Nat) :
    copyInto bytes buffer offset = ((part bytes buffer.length offset).length,
      fill buffer (part bytes buffer.length offset)) := by
  by_cases behind : bytes.length ≤ offset
  · have nothing : copyInto bytes buffer offset = (0, buffer) := by
      rw [copyInto, Address.ofOffset?]
      by_cases fits : offset ≤ Address.last
      · rw [if_pos fits]
        exact if_pos behind
      · rw [if_neg fits]
    rw [nothing, part_eq_nil_of_le _ behind]
    rfl
  · rw [copyInto, Address.ofOffset?, if_pos (by omega)]
    dsimp only
    rw [if_neg behind, extract_eq_part, ← length_part, part_length_part]

/-- A reader that brings at each read some of the bytes from the offset on, and nothing only where
there are none. -/
def Brings (reader : ContentReader) (bytes : List UInt8) : Prop :=
  ∀ buffer offset, buffer ≠ [] → ∃ count, count ≤ buffer.length ∧ count ≤ bytes.length - offset ∧
    (count = 0 → bytes.length ≤ offset) ∧
    reader.readInto buffer offset = .ok (count, fill buffer (part bytes count offset))

theorem fillFrom_of_read {filled : List UInt8} {count : Nat} (present : buffer ≠ [])
    (read : reader.readInto buffer offset = .ok (count, filled)) :
    reader.fillFrom buffer offset =
      if count = 0 then .ok []
      else (reader.fillFrom (filled.drop count) (offset + count)).map (filled.take count ++ ·) := by
  rw [fillFrom, if_neg (by simpa using present)]
  split
  · next failed =>
      rw [read] at failed
      cases failed
  · next again =>
      rw [read] at again
      rcases Prod.mk.inj (Except.ok.inj again) with ⟨rfl, rfl⟩
      cases reader.fillFrom (filled.drop count) (offset + count) <;> rfl

/-- However little comes at a time, a buffer is filled with all that there is room for. -/
theorem Brings.fillFrom_eq (brings : reader.Brings bytes) (buffer : List UInt8) (offset : Nat) :
    reader.fillFrom buffer offset = .ok (part bytes buffer.length offset) := by
  induction room : buffer.length using Nat.strongRecOn generalizing buffer offset with
  | ind size ih =>
      by_cases empty : buffer = []
      · rcases empty with rfl
        rcases room with rfl
        simp [fillFrom, part_eq_take_drop]
      rcases brings buffer offset empty with ⟨count, fits, within, ends, read⟩
      rw [fillFrom_of_read empty read]
      split
      · next none => rw [part_eq_nil_of_le _ (ends none)]
      · next some =>
          have came : (part bytes count offset).length = count := by
            rw [length_part]
            omega
          have left : (buffer.drop count).length = size - count := by rw [List.length_drop, room]
          have smaller : size - count < size := by omega
          -- The next read begins where this one has stopped, in the buffer and in the content.
          rw [fill, List.drop_left' came, List.take_left' came, came,
            ih (size - count) smaller (buffer.drop count) (offset + count) left, Except.map,
            part_append, Nat.add_sub_cancel' (by omega)]

theorem brings_ofBytes (addressed : bytes.length ≤ Address.last) :
    (ofBytes bytes).Brings bytes := by
  intro buffer offset present
  have room := List.length_pos_iff.mpr present
  refine ⟨(part bytes buffer.length offset).length, ?_, ?_, ?_, ?_⟩
  · rw [length_part]
    omega
  · rw [length_part]
    omega
  · intro none
    rw [length_part] at none
    omega
  · rw [part_length_part, ← copyInto_eq_part addressed]
    rfl

theorem readAll_ofBytes (addressed : bytes.length ≤ Address.last) :
    (ofBytes bytes).readAll = .ok bytes := by
  have size : Address.ofOffset? (ofBytes bytes).size = some bytes.length := if_pos addressed
  rw [readAll, size]
  dsimp only
  rw [(brings_ofBytes addressed).fillFrom_eq, List.length_replicate, part_eq_take_drop,
    List.drop_zero, List.take_length]

end ContentReader

namespace Entry

variable {entry : Entry} {content : Content} {bytes : List UInt8} {effects : Effects} {size : Nat}

/-! ## Reading block by block -/

theorem block_eq_part (addressed : bytes.length ≤ Address.last) (size offset : Nat) :
    block bytes size offset = part bytes size offset := by
  have start : min ((Address.ofOffset? offset).getD Address.last) bytes.length =
      min offset bytes.length := by
    rw [Address.ofOffset?]
    split
    · rfl
    · rw [Option.getD_none]
      omega
  have stop : min (Address.after (min offset bytes.length) size) bytes.length =
      min (offset + size) bytes.length := by
    rw [Address.after]
    omega
  rw [block, start, stop, part]

theorem perform_readBlock (has : entry.profile.content = some content) (effects : Effects)
    (size offset : Nat) :
    entry.perform false effects (.readBlock size offset) =
      (.ok (.bytes (block content.bytes size offset)), effects) := by
  simp only [perform, serve, has]
  rfl

theorem perform_openContent (has : entry.profile.content = some content) (effects : Effects) :
    entry.perform false effects .openContent =
      (.ok (.content (.ofBytes content.bytes)), effects) := by
  simp only [perform, serve, has]
  rfl

/-- The blocks that an entry gives from an offset on, one behind the other, before it gives an empty
one. -/
inductive BlocksFrom (entry : Entry) (effects : Effects) (size : Nat) :
    Nat → List (List UInt8) → Prop
  | done {offset : Nat}
      (read : entry.perform false effects (.readBlock size offset) = (.ok (.bytes []), effects)) :
      BlocksFrom entry effects size offset []
  | next {offset : Nat} {block : List UInt8} {blocks : List (List UInt8)}
      (read : entry.perform false effects (.readBlock size offset) =
        (.ok (.bytes block), effects))
      (present : block ≠ []) (rest : BlocksFrom entry effects size (offset + size) blocks) :
      BlocksFrom entry effects size offset (block :: blocks)

/-- Every block but the last is full, and each begins within the content. -/
theorem exists_blocksFrom
    (reads : ∀ offset, entry.perform false effects (.readBlock size offset) =
      (.ok (.bytes (part bytes size offset)), effects))
    (positive : 0 < size) (offset : Nat) :
    ∃ blocks, entry.BlocksFrom effects size offset blocks ∧ blocks.flatten = bytes.drop offset ∧
      (∀ block ∈ blocks.dropLast, block.length = size) ∧
      ∀ before < blocks.length, offset + before * size < bytes.length := by
  induction left : bytes.length - offset using Nat.strongRecOn generalizing offset with
  | ind count ih =>
      by_cases behind : bytes.length ≤ offset
      · refine ⟨[], .done ?_, (List.drop_eq_nil_of_le behind).symm, by simp, by simp⟩
        rw [reads, part_eq_nil_of_le _ behind]
      · rcases ih (bytes.length - (offset + size)) (by omega) (offset + size) rfl with
          ⟨blocks, rest, flatten, full, within⟩
        have here := length_part bytes size offset
        have present : part bytes size offset ≠ [] := List.ne_nil_of_length_pos (by omega)
        refine ⟨part bytes size offset :: blocks, .next (reads offset) present rest, ?_, ?_, ?_⟩
        · rw [List.flatten_cons, flatten, part_eq_take_drop, ← List.drop_drop,
            List.take_append_drop]
        · intro block member
          -- A block that another one follows is full, as that one begins within the content.
          rcases List.eq_nil_or_concat' blocks with rfl | ⟨_, _, rfl⟩
          · cases member
          · rw [List.dropLast_cons_of_ne_nil (by simp)] at member
            rcases List.mem_cons.mp member with rfl | member
            · have := within 0 (by simp)
              omega
            · exact full block member
        · intro before inside
          cases before with
          | zero => omega
          | succ before =>
              have := within before (by simpa using inside)
              rw [Nat.add_one_mul]
              omega

/-- The offset of a block that follows upon content is an address, as far as the content leaves half
of the addresses free. -/
theorem offset_le_last {length count : Nat} (short : length < 2 ^ 63) (fits : size ≤ Address.last)
    (within : ∀ before < count, before * size < length) : count * size ≤ Address.last := by
  cases count with
  | zero => omega
  | succ before =>
      have here := within before (Nat.lt_succ_self before)
      rw [Nat.add_one_mul]
      cases before with
      | zero => omega
      | succ before =>
          rw [Nat.add_one_mul] at here ⊢
          rw [Address.last]
          omega

/-- All ways to read the content of an entry bring the same. Opened content fills a buffer from any
offset on with the part of the content there, and leaves what is behind it. A block is this part as
well. All that can be read of opened content is the content, and so are the blocks of any size in a
row up to an empty one. All of these but the last have that size, and no offset of theirs is more
than an address. -/
theorem content_reads (entry : Entry) (content : Content) (effects : Effects)
    (has : entry.profile.content = some content) (short : content.bytes.length < 2 ^ 63) :
    (∃ reader, entry.perform false effects .openContent = (.ok (.content reader), effects) ∧
      (∀ buffer offset, ∃ filled,
        reader.readInto buffer offset =
          .ok ((part content.bytes buffer.length offset).length, filled) ∧
        filled = part content.bytes buffer.length offset ++
          buffer.drop (part content.bytes buffer.length offset).length ∧
        filled.length = buffer.length) ∧
      reader.readAll = .ok content.bytes) ∧
    (∀ size offset, entry.perform false effects (.readBlock size offset) =
      (.ok (.bytes (part content.bytes size offset)), effects)) ∧
    ∀ size, 0 < size → ∃ blocks, entry.BlocksFrom effects size 0 blocks ∧
      blocks.flatten = content.bytes ∧ (∀ block ∈ blocks.dropLast, block.length = size) ∧
      (size ≤ Address.last → blocks.length * size ≤ Address.last) := by
  have addressed : content.bytes.length ≤ Address.last := by
    rw [Address.last]
    omega
  have reads (size offset : Nat) : entry.perform false effects (.readBlock size offset) =
      (.ok (.bytes (part content.bytes size offset)), effects) := by
    rw [perform_readBlock has, block_eq_part addressed]
  refine ⟨⟨_, perform_openContent has effects, ?_, ContentReader.readAll_ofBytes addressed⟩, reads,
    ?_⟩
  · intro buffer offset
    have read : (ContentReader.ofBytes content.bytes).readInto buffer offset = .ok _ :=
      congrArg Except.ok (ContentReader.copyInto_eq_part addressed buffer offset)
    exact ⟨_, read, rfl, (ContentReader.ofBytes content.bytes).length_readInto read⟩
  · intro size positive
    rcases exists_blocksFrom (reads size) positive 0 with ⟨blocks, from0, flatten, full, within⟩
    refine ⟨blocks, from0, flatten, full, fun fits => offset_le_last short fits ?_⟩
    intro before inside
    simpa using within before inside

/-- Content of ten bytes: behind the last full block, a block that asks for more than there can be,
and an offset that lies behind everything. -/
theorem content_reads_disk :
    let bytes : List UInt8 := [0, 1, 2, 3, 4, 5, 6, 7, 8, 9]
    let entry : Entry := .leaf { name := "disk", content := some (.blocks bytes) }
    bytes.length < 2 ^ 63 ∧
    (∃ reader, entry.perform false {} .openContent = (.ok (.content reader), {}) ∧
      reader.readInto [255, 255, 255, 255] 8 = .ok (2, [8, 9, 255, 255]) ∧
      reader.readAll = .ok bytes) ∧
    entry.perform false {} (.readBlock (2 ^ 64 - 1) 8) = (.ok (.bytes [8, 9]), {}) ∧
    entry.perform false {} (.readBlock 4 (2 ^ 64 - 1)) = (.ok (.bytes []), {}) ∧
    ∃ blocks, entry.BlocksFrom {} 4 0 blocks ∧ blocks.flatten = bytes ∧
      ∀ block ∈ blocks.dropLast, block.length = 4 := by
  intro bytes entry
  rcases content_reads entry (.blocks bytes) {} rfl (by decide) with
    ⟨⟨reader, opened, filling, all⟩, reads, blocks⟩
  rcases filling [255, 255, 255, 255] 8 with ⟨_, read, rfl, _⟩
  rcases blocks 4 (by decide) with ⟨blocks, from0, flatten, full, _⟩
  exact ⟨by decide, ⟨reader, opened, read, all⟩, reads (2 ^ 64 - 1) 8,
    reads 4 (2 ^ 64 - 1), blocks, from0, flatten, full⟩

end Entry
end EntryTree
