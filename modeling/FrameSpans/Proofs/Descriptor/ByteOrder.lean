import FrameSpans.Proofs.Descriptor.Canonical

/-!
# One descriptor in either byte order

The byte order of a descriptor is a matter of its octets and not of its words. The four octets of a
word stand in reverse (`Endian.flatMap_octets32_little`), and since the two words of the timestamp
change places as well, its eight octets stand in reverse as a whole (`Endian.halves_little`). So the
little endian descriptor is the big endian one with each of these groups reversed, whichever writer
wrote it (`Descriptor.byte_orders_reversed`).
-/

namespace FrameSpans

/-- The octets with each group of four reversed. Octets behind the last group stay. -/
def reverseGroups : List UInt8 → List UInt8
  | a :: b :: c :: d :: rest => d :: c :: b :: a :: reverseGroups rest
  | rest => rest

namespace Endian

/-- Each word of a row stands in reverse in the other byte order. -/
theorem flatMap_octets32_little (words : List UInt32) :
    words.flatMap (octets32 .little) = reverseGroups (words.flatMap (octets32 .big)) := by
  induction words with
  | nil => rfl
  | cons word rest ih =>
    rw [List.flatMap_cons, List.flatMap_cons, ih]
    rfl

/-- The octets of a long word stand in reverse in the other byte order. -/
theorem halves_little (word : UInt64) :
    (halves .little word).flatMap (octets32 .little) =
      ((halves .big word).flatMap (octets32 .big)).reverse :=
  rfl

end Endian

namespace Descriptor

/-- The words of a descriptor behind its timestamp are the same in both byte orders. -/
def wordsBehindTimestamp (header : Header) (records : List UInt32) : List UInt32 :=
  [captureWord header, wireWord header records.length, hashWord header, header.bitmask.bits] ++
    records

section Stored

variable (header : Header) {records : List UInt32} {out : Octets}
  (room : 24 + 4 * records.length ≤ out.size) (endian : Endian)

include room

/-- A descriptor that was stored is the octets of its timestamp and those of the words behind it. -/
theorem octets_stored :
    ((out.putWords endian 0 (words endian header records)).extract 0
        (24 + 4 * records.length)).toList =
      (endian.halves header.timestamp).flatMap endian.octets32 ++
        (wordsBehindTimestamp header records).flatMap endian.octets32 := by
  have size := Layout.size_eq_add records.length
  have octets := (holds_stored header (size ▸ room) endian).octets_eq
  dsimp only at octets
  rw [← size, octets, List.toList_toArray, ← List.flatMap_append, words, wordsBehindTimestamp,
    List.append_assoc]

/-- The timestamp of a descriptor that was stored has the first eight octets. -/
theorem timestamp_stored :
    ((out.putWords endian 0 (words endian header records)).extract 0 8).toList =
      (endian.halves header.timestamp).flatMap endian.octets32 := by
  -- The first eight octets of the buffer are those of the descriptor in it.
  have part := congrArg (List.take 8) (octets_stored header room endian)
  have eight : 8 = ((endian.halves header.timestamp).flatMap endian.octets32).length := by
    rw [Endian.length_flatMap_octets32, Endian.length_halves]
  rw [List.take_left' eight.symm, Array.toList_extract, List.extract_eq_take_drop, List.take_take,
    Nat.min_eq_left (by omega)] at part
  rw [Array.toList_extract, List.extract_eq_take_drop]
  exact part

/-- The words behind the timestamp of a descriptor that was stored have the other octets. -/
theorem words_stored :
    ((out.putWords endian 0 (words endian header records)).extract 8
        (24 + 4 * records.length)).toList =
      (wordsBehindTimestamp header records).flatMap endian.octets32 := by
  have part := congrArg (List.drop 8) (octets_stored header room endian)
  have eight : 8 = ((endian.halves header.timestamp).flatMap endian.octets32).length := by
    rw [Endian.length_flatMap_octets32, Endian.length_halves]
  rw [List.drop_left' eight.symm, Array.toList_extract, List.extract_eq_take_drop, List.drop_take,
    List.drop_drop] at part
  rw [Array.toList_extract, List.extract_eq_take_drop]
  exact part

end Stored

/-- Both writers store a descriptor that has room as its words. -/
theorem write_eq (header : Header) {records : List UInt32} (few : records.length ≤ 32)
    {out : Octets} (room : 24 + 4 * records.length ≤ out.size) (endian : Endian) :
    ∀ write ∈ [writePacked, writeFields], write header records out endian =
      (.ok (24 + 4 * records.length), out.putWords endian 0 (words endian header records)) := by
  have size := Layout.size_eq_add records.length
  have stored := store_of_accepts header endian ⟨few, size ▸ room⟩
  rw [size] at stored
  refine List.forall_mem_cons.mpr ⟨?_, List.forall_mem_singleton.mpr ?_⟩
  · rw [writePacked_eq, stored]
  · rw [writeFields_eq, stored]

/-- A descriptor has the same length in both byte orders. In the little endian one the eight octets
of the timestamp are those of the big endian one in reverse, and so are the four octets of each word
behind it, four words of the header and all span words. It does not matter which writer is used, or
what was in the buffers. -/
theorem byte_orders_reversed (header : Header) {records : List UInt32}
    (few : records.length ≤ 32) {out out' : Octets} (room : 24 + 4 * records.length ≤ out.size)
    (room' : 24 + 4 * records.length ≤ out'.size) :
    ∀ write ∈ [writePacked, writeFields], ∃ big little,
      write header records out .big = (.ok (24 + 4 * records.length), big) ∧
      write header records out' .little = (.ok (24 + 4 * records.length), little) ∧
      big.size = out.size ∧ little.size = out'.size ∧
      (little.extract 0 8).toList = (big.extract 0 8).toList.reverse ∧
      (little.extract 8 (24 + 4 * records.length)).toList =
        reverseGroups (big.extract 8 (24 + 4 * records.length)).toList := by
  intro write writer
  refine ⟨_, _, write_eq header few room .big write writer,
    write_eq header few room' .little write writer, Octets.size_putWords ..,
    Octets.size_putWords .., ?_, ?_⟩
  · rw [timestamp_stored header room', timestamp_stored header room]
    exact Endian.halves_little header.timestamp
  · rw [words_stored header room', words_stored header room]
    exact Endian.flatMap_octets32_little _

/-- A descriptor of two spans, with a timestamp that shows the order of its octets. -/
theorem byte_orders_reversed_two :
    let header : Header :=
      { timestamp := 0x0102030405060708, captureLength := 70, wireLength := 1518, rxPort := 3 }
    let records : List UInt32 := [0x0001c000, 0x0805000e]
    let out : Octets := Array.replicate 32 0xaa
    let out' : Octets := Array.replicate 36 0
    records.length ≤ 32 ∧ 24 + 4 * records.length ≤ out.size ∧ 24 + 4 * records.length ≤ out'.size ∧
      ∃ big little, writePacked header records out .big = (.ok 32, big) ∧
        writePacked header records out' .little = (.ok 32, little) ∧
        (little.extract 0 8).toList = (big.extract 0 8).toList.reverse ∧
        (little.extract 8 32).toList = reverseGroups (big.extract 8 32).toList := by
  intro header records out out'
  have few : records.length ≤ 32 := by decide
  have room : 24 + 4 * records.length ≤ out.size := by decide
  have room' : 24 + 4 * records.length ≤ out'.size := by decide
  obtain ⟨big, little, writtenBig, writtenLittle, -, -, timestamp, words⟩ :=
    byte_orders_reversed header few room room' writePacked List.mem_cons_self
  exact ⟨few, room, room', big, little, writtenBig, writtenLittle, timestamp, words⟩

end Descriptor

end FrameSpans
