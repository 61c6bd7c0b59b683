import FrameSpans.Proofs.Descriptor.View
import FrameSpans.Proofs.Reading.Guarded
import FrameSpans.Proofs.Span

/-!
# Writing what was read

A descriptor that was accepted, whoever wrote it, holds a row of words (`exists_holds`), and the row
tells all its octets (`Holds.octets_eq`). Each word is restored from what the reader makes of it:
the timestamp and the span words as they are, a word of bit fields up to the bits that belong to no
field (`words_header`). So writing the header and the spans of a descriptor gives its octets back
with these bits cleared (`writing_undoes_reading`).
-/

namespace FrameSpans

open BitField (maskAll packAll packAll_unpack)

/-! ## Reserved bits -/

/-- The bits of the header that belong to no field, with the position of their word. -/
def Layout.reserved : List (Nat × UInt32) :=
  [(8, 0xf0000000), (12, 0x02000000), (16, 0xc0000000)]

/-- The reserved bits are those that no field of their word owns. All other words are filled. -/
theorem Layout.reserved_eq :
    reserved =
        [(8, ~~~maskAll [captureLength, rxPort, txPort]),
          (12, ~~~maskAll [wireLength, txNow, txIgnore, txCrcOverride, txSetClock, l2Type,
            recordCount]),
          (16, ~~~maskAll [hash, hashType, isFragment, isLastFragment])] ∧
      maskAll [bitmask] = -1 := by
  decide

/-- The octets with some bits of the word at `offset` cleared. -/
def Octets.clearBits (octets : Octets) (endian : Endian) (offset : Nat) (bits : UInt32) : Octets :=
  match octets.stored32? endian offset with
  | some word => octets.put32 endian offset (word &&& ~~~bits)
  | none => octets

/-- The octets of a descriptor with the reserved bits cleared. -/
def Octets.clearReserved (octets : Octets) (endian : Endian) : Octets :=
  Layout.reserved.foldl (fun cleared entry => cleared.clearBits endian entry.1 entry.2) octets

namespace Descriptor

/-! ## Rows of words -/

/-- Words that are stored from the start of a buffer to its end are held by it. -/
theorem holds_putWords {out : Octets} {words : List UInt32} (size : out.size = 4 * words.length)
    (endian : Endian) : Holds ⟨out.putWords endian 0 words, endian⟩ words := by
  constructor
  · rw [Octets.size_putWords, size]
  · intro i hi
    have stored := Octets.stored32?_putWords out endian 0 words hi (by omega)
    rw [Nat.zero_add] at stored
    exact stored

/-- The octets of a descriptor are those of the words it holds. -/
theorem Holds.octets_eq {descriptor : Descriptor} {words : List UInt32}
    (h : descriptor.Holds words) :
    descriptor.octets = (words.flatMap descriptor.endian.octets32).toArray := by
  have size := h.size_eq
  apply Array.ext_getElem?
  intro position
  have listed : (words.flatMap descriptor.endian.octets32).toArray[position]? =
      (words.flatMap descriptor.endian.octets32)[position]? := List.getElem?_toArray
  rw [listed]
  -- An octet belongs to the word that its position, in fours, tells.
  by_cases inside : position < 4 * words.length
  · have word := h.word?_eq (position / 4) (by omega)
    have octet := Octets.octets_of_stored32? word (position % 4) (Nat.mod_lt _ (by decide))
    rw [Nat.div_add_mod] at octet
    rw [octet, ← Endian.getElem?_flatMap_octets32 _ words (by omega) (Nat.mod_lt _ (by decide)),
      Nat.div_add_mod]
  · rw [Array.getElem?_eq_none (by omega), List.getElem?_eq_none]
    rw [Endian.length_flatMap_octets32]
    omega

/-- Storing the words that a descriptor holds changes nothing. -/
theorem Holds.putWords_eq {octets : Octets} {endian : Endian} {words : List UInt32}
    (h : Holds ⟨octets, endian⟩ words) : octets.putWords endian 0 words = octets := by
  have stored := (holds_putWords h.size_eq endian).octets_eq
  exact stored.trans h.octets_eq.symm

/-- Octets of a whole number of words are a row of words. -/
theorem exists_holds {descriptor : Descriptor} {count : Nat}
    (size : descriptor.octets.size = 4 * count) :
    ∃ words : List UInt32, words.length = count ∧ descriptor.Holds words := by
  let words := (List.range count).map fun i => (descriptor.word? (4 * i)).getD 0
  have length : words.length = count := by rw [List.length_map, List.length_range]
  refine ⟨words, length, by rw [length, size], fun i hi => ?_⟩
  obtain ⟨word, read⟩ := Octets.exists_stored32? descriptor.endian
    (by omega : 4 * i + 4 ≤ descriptor.octets.size)
  have found : descriptor.word? (4 * i) = some word := read
  rw [List.getElem_map, List.getElem_range, found, Option.getD_some]

/-- Bits that are cleared in the octets are cleared in the word they belong to. -/
theorem Holds.clearBits {octets : Octets} {endian : Endian} {words : List UInt32}
    (h : Holds ⟨octets, endian⟩ words) {i : Nat} (hi : i < words.length) (bits : UInt32) :
    Holds ⟨octets.clearBits endian (4 * i) bits, endian⟩ (words.set i (words[i] &&& ~~~bits)) := by
  have read : octets.stored32? endian (4 * i) = some words[i] := h.word?_eq i hi
  have stored := Octets.put32_putWords octets endian 0 hi (words[i] &&& ~~~bits)
  rw [Nat.zero_add, h.putWords_eq] at stored
  rw [Octets.clearBits, read]
  dsimp only
  rw [stored]
  refine holds_putWords ?_ endian
  rw [List.length_set]
  exact h.size_eq

/-! ## Fields of a word -/

/-- A field has no more bits than its greatest value. -/
theorem field_le (descriptor : Descriptor) (field : BitField) :
    (descriptor.field field).toNat ≤ field.max.toNat := by
  rw [Descriptor.field, BitField.unpack, UInt32.toNat_and]
  exact Nat.and_le_right

section Fields

variable {descriptor : Descriptor} {field : BitField}

/-- A field of at most eight bits is kept in an octet. -/
theorem toUInt32_toUInt8_field (narrow : field.max.toNat < 2 ^ 8) :
    (descriptor.field field).toUInt8.toUInt32 = descriptor.field field := by
  have le := descriptor.field_le field
  apply UInt32.toNat_inj.mp
  rw [UInt8.toNat_toUInt32, UInt32.toNat_toUInt8]
  omega

/-- A field of at most sixteen bits is kept in half a word. -/
theorem toUInt32_toUInt16_field (narrow : field.max.toNat < 2 ^ 16) :
    (descriptor.field field).toUInt16.toUInt32 = descriptor.field field := by
  have le := descriptor.field_le field
  apply UInt32.toNat_inj.mp
  rw [UInt16.toNat_toUInt32, UInt32.toNat_toUInt16]
  omega

/-- A field of one bit is kept in a truth value. -/
theorem flagBit_flag (bit : field.max = 1) :
    flagBit (descriptor.flag field) = descriptor.field field := by
  have le := descriptor.field_le field
  rw [bit] at le
  have le : (descriptor.field field).toNat ≤ 1 := le
  rw [flag, flagBit]
  by_cases zero : descriptor.field field = 0
  · rw [zero]
    rfl
  · have one : descriptor.field field = 1 := by
      have pos : (descriptor.field field).toNat ≠ 0 := fun h => zero (UInt32.toNat_inj.mp h)
      apply UInt32.toNat_inj.mp
      show _ = 1
      omega
    rw [one]
    rfl

end Fields

/-! ## The words of the header -/

/-- The fields of the word at octet 8 have the values that were read. -/
theorem captureFields_header (descriptor : Descriptor) :
    captureFields descriptor.header =
      [Layout.captureLength, Layout.rxPort, Layout.txPort].map fun field =>
        (field, descriptor.field field) := by
  have captureLength : (descriptor.header.captureLength).toUInt32 = _ :=
    toUInt32_toUInt16_field (by decide)
  have rxPort : descriptor.header.rxPort.toUInt32 = _ := toUInt32_toUInt8_field (by decide)
  have txPort : descriptor.header.txPort.toUInt32 = _ := toUInt32_toUInt8_field (by decide)
  rw [captureFields, captureLength, rxPort, txPort]
  rfl

/-- The fields of the word at octet 12 have the values that were read. -/
theorem wireFields_header (descriptor : Descriptor) :
    wireFields descriptor.header descriptor.recordCount =
      [Layout.wireLength, Layout.txNow, Layout.txIgnore, Layout.txCrcOverride, Layout.txSetClock,
        Layout.l2Type, Layout.recordCount].map fun field => (field, descriptor.field field) := by
  have wireLength : descriptor.header.wireLength.toUInt32 = _ :=
    toUInt32_toUInt16_field (by decide)
  have now : flagBit descriptor.header.txFlags.now = _ := flagBit_flag (by decide)
  have ignore : flagBit descriptor.header.txFlags.ignore = _ := flagBit_flag (by decide)
  have crcOverride : flagBit descriptor.header.txFlags.crcOverride = _ := flagBit_flag (by decide)
  have setClock : flagBit descriptor.header.txFlags.setClock = _ := flagBit_flag (by decide)
  have framing : descriptor.header.l2Type.value = (descriptor.field Layout.l2Type).toUInt8 :=
    L2Type.value_ofValue _
  have l2Type : (descriptor.field Layout.l2Type).toUInt8.toUInt32 = _ :=
    toUInt32_toUInt8_field (by decide)
  have count : UInt32.ofNat descriptor.recordCount = descriptor.field Layout.recordCount :=
    UInt32.ofNat_toNat
  rw [wireFields, wireLength, now, ignore, crcOverride, setClock, framing, l2Type, count]
  rfl

/-- The fields of the word at octet 16 have the values that were read. -/
theorem hashFields_header (descriptor : Descriptor) :
    hashFields descriptor.header =
      [Layout.hash, Layout.hashType, Layout.isFragment, Layout.isLastFragment].map fun field =>
        (field, descriptor.field field) := by
  have hashType : descriptor.header.hashType.toUInt32 = _ := toUInt32_toUInt8_field (by decide)
  have isFragment : flagBit descriptor.header.isFragment = _ := flagBit_flag (by decide)
  have isLast : flagBit descriptor.header.isLastFragment = _ := flagBit_flag (by decide)
  rw [hashFields, hashType, isFragment, isLast]
  rfl

section Header

variable {descriptor : Descriptor} {words : List UInt32} (h : descriptor.Holds words)

include h

/-- A field of a word of the row is read from that word. -/
theorem Holds.field_eq {i : Nat} (hi : i < words.length) {field : BitField}
    (place : field.word = 4 * i) : descriptor.field field = field.unpack words[i] := by
  rw [Descriptor.field, place, h.word?_eq i hi, Option.getD_some]

/-- Packing what was read of some fields of a word keeps the bits that belong to them. -/
theorem Holds.packAll_fields {i : Nat} (hi : i < words.length) {fields : List BitField}
    (placed : ∀ field ∈ fields, field.word = 4 * i) :
    packAll (fields.map fun field => (field, descriptor.field field)) =
      words[i] &&& maskAll fields := by
  rw [← packAll_unpack]
  congr 1
  refine List.map_congr_left fun field member => ?_
  rw [h.field_eq hi (placed field member)]

end Header

/-- A row that is long enough has six words in front of the span words. -/
theorem exists_row {words : List UInt32} {count : Nat} (length : words.length = 6 + count) :
    ∃ w0 w1 w2 w3 w4 w5 records,
      words = [w0, w1, w2, w3, w4, w5] ++ records ∧ records.length = count := by
  refine ⟨words[0], words[1], words[2], words[3], words[4], words[5], words.drop 6, ?_, ?_⟩
  · simp only [List.cons_append, List.nil_append, List.getElem_cons_drop, List.drop_zero]
  · rw [List.length_drop]
    omega

section Row

variable {w0 w1 w2 w3 w4 w5 : UInt32} {records : List UInt32}

/-- A row is long enough for a header. -/
theorem six_le_length_row : 6 ≤ ([w0, w1, w2, w3, w4, w5] ++ records).length := by
  rw [List.length_append]
  exact Nat.le_add_right ..

/-- The timestamp of a row is restored as it is. -/
theorem Holds.halves_timestamp {descriptor : Descriptor}
    (h : descriptor.Holds ([w0, w1, w2, w3, w4, w5] ++ records)) :
    descriptor.endian.halves descriptor.header.timestamp = [w0, w1] := by
  obtain ⟨octets, endian⟩ := descriptor
  have long : 6 ≤ ([w0, w1, w2, w3, w4, w5] ++ records).length := six_le_length_row
  have first : octets.stored32? endian 0 = some w0 := h.word?_eq 0 (by omega)
  have second : octets.stored32? endian 4 = some w1 := h.word?_eq 1 (by omega)
  show endian.halves ((octets.stored64? endian 0).getD 0) = [w0, w1]
  rw [Octets.stored64?, first, second]
  -- The upper half stands first in the one byte order, and last in the other.
  cases endian with
  | big => exact Endian.halves_word64 w0 w1
  | little =>
    have reversed := congrArg List.reverse (Endian.halves_word64 w1 w0)
    exact reversed

/-- A row is restored from the header and the span words of its descriptor, up to the bits that
belong to no field. -/
theorem Holds.words_header {descriptor : Descriptor}
    (h : descriptor.Holds ([w0, w1, w2, w3, w4, w5] ++ records))
    (count : descriptor.recordCount = records.length) :
    words descriptor.endian descriptor.header records =
      [w0, w1, w2 &&& ~~~0xf0000000, w3 &&& ~~~0x02000000, w4 &&& ~~~0xc0000000, w5] ++
        records := by
  have long : 6 ≤ ([w0, w1, w2, w3, w4, w5] ++ records).length := six_le_length_row
  -- A word that is packed from what was read of its fields keeps their bits and no others.
  have capture : captureWord descriptor.header = w2 &&& ~~~0xf0000000 := by
    rw [captureWord_eq, captureFields_header, h.packAll_fields (i := 2) (by omega) (by decide)]
    rfl
  have wire : wireWord descriptor.header records.length = w3 &&& ~~~0x02000000 := by
    rw [← count, wireWord_eq, wireFields_header,
      h.packAll_fields (i := 3) (by omega) (by decide)]
    rfl
  have hash : hashWord descriptor.header = w4 &&& ~~~0xc0000000 := by
    rw [hashWord_eq, hashFields_header, h.packAll_fields (i := 4) (by omega) (by decide)]
    rfl
  have bitmask : descriptor.header.bitmask.bits = w5 := by
    have read := h.field_eq (i := 5) (by omega) (by rfl : Layout.bitmask.word = 4 * 5)
    have whole : Layout.bitmask.max = -1 := by decide
    rw [BitField.unpack, whole, UInt32.and_neg_one] at read
    exact read.trans UInt32.shiftRight_zero
  rw [words, h.halves_timestamp, capture, wire, hash, bitmask]
  rfl

/-- Clearing the reserved bits of the octets clears them in the row. -/
theorem Holds.clearReserved {octets : Octets} {endian : Endian}
    (h : Holds ⟨octets, endian⟩ ([w0, w1, w2, w3, w4, w5] ++ records)) :
    Holds ⟨octets.clearReserved endian, endian⟩
      ([w0, w1, w2 &&& ~~~0xf0000000, w3 &&& ~~~0x02000000, w4 &&& ~~~0xc0000000, w5] ++
        records) := by
  have long : 6 ≤ ([w0, w1, w2, w3, w4, w5] ++ records).length := six_le_length_row
  have second := h.clearBits (i := 2) (by omega) 0xf0000000
  have third := second.clearBits (i := 3) (by rw [List.length_set]; omega) 0x02000000
  have fourth := third.clearBits (i := 4) (by rw [List.length_set, List.length_set]; omega)
    0xc0000000
  exact fourth

end Row

/-! ## Accepted descriptors -/

/-- What is accepted as a descriptor starts with a header and as many span words as it announces,
and nothing behind them is part of the descriptor. -/
theorem of_ofOctets {octets : Octets} {endian : Endian} {descriptor : Descriptor}
    (accepted : ofOctets octets endian = .ok descriptor) :
    descriptor = ⟨octets.extract 0 (Layout.size descriptor.recordCount), endian⟩ ∧
      Layout.size descriptor.recordCount ≤ octets.size := by
  rw [ofOctets] at accepted
  split at accepted
  · cases accepted
  · dsimp only at accepted
    split at accepted
    · cases accepted
    · next enough =>
      have size := Layout.size_eq (recordCount ⟨octets, endian⟩)
      have read := Except.ok.inj accepted
      -- The count stands in the header, which is part of what is kept.
      have count : descriptor.recordCount = recordCount ⟨octets, endian⟩ := by
        rw [← read, recordCount_extract (by omega)]
      rw [count]
      exact ⟨read.symm, by omega⟩

/-- The octets of an accepted descriptor are as many as its header announces. -/
theorem size_of_ofOctets {octets : Octets} {endian : Endian} {descriptor : Descriptor}
    (accepted : ofOctets octets endian = .ok descriptor) :
    descriptor.octets.size = Layout.size descriptor.recordCount := by
  obtain ⟨extent, inside⟩ := of_ofOctets accepted
  have size := congrArg (fun descriptor => descriptor.octets.size) extent
  rw [Array.size_extract] at size
  omega

/-- The octets of an accepted descriptor are accepted as that descriptor. -/
theorem ofOctets_octets {octets : Octets} {endian : Endian} {descriptor : Descriptor}
    (accepted : ofOctets octets endian = .ok descriptor) :
    ofOctets descriptor.octets endian = .ok descriptor := by
  obtain ⟨extent, -⟩ := of_ofOctets accepted
  have size := size_of_ofOctets accepted
  have words := Layout.size_eq descriptor.recordCount
  have order : descriptor.endian = endian := congrArg Descriptor.endian extent
  have whole : (⟨descriptor.octets, endian⟩ : Descriptor) = descriptor := by rw [← order]
  have header : Layout.headerSize = 24 := rfl
  rw [ofOctets, if_neg (by omega), whole]
  dsimp only
  rw [if_neg (by omega), ← size, Array.extract_size, whole]

/-- Every span of a row of words is encoded as its word again. -/
theorem mapM_encode_decode (records : List UInt32) :
    (records.map Span.decode).mapM Span.encode = .ok records := by
  induction records with
  | nil => rfl
  | cons word rest ih =>
    rw [List.map_cons, List.mapM_cons, Span.encode_decode, ih]
    rfl

/-- An accepted descriptor holds a row: six words, whose reserved bits alone are lost when the
header is read, and the words of its spans. -/
theorem exists_row_of_ofOctets {octets : Octets} {endian : Endian} {descriptor : Descriptor}
    (accepted : ofOctets octets endian = .ok descriptor) :
    ∃ records : List UInt32, records.length = descriptor.recordCount ∧
      descriptor.spans = records.map .decode ∧
      Holds ⟨descriptor.octets.clearReserved endian, endian⟩
        (words endian descriptor.header records) := by
  obtain ⟨extent, -⟩ := of_ofOctets accepted
  have size : descriptor.octets.size = 4 * (6 + descriptor.recordCount) := by
    rw [← Layout.size_eq, size_of_ofOctets accepted]
  have order : descriptor.endian = endian := congrArg Descriptor.endian extent
  obtain ⟨row, length, holds⟩ := exists_holds size
  obtain ⟨w0, w1, w2, w3, w4, w5, records, rfl, count⟩ := exists_row length
  have spans := spans_of_row holds (by omega)
  have restored := holds.words_header count.symm
  rw [order] at restored
  refine ⟨records, count, spans, ?_⟩
  rw [restored]
  refine Holds.clearReserved ?_
  rw [← order]
  exact holds

/-- Writing undoes reading. Every span of an accepted descriptor is encoded again, and if there are
not too many for a table, either writer makes of the header and these words the octets of the
descriptor with the reserved bits cleared. If there are too many, both refuse and leave the buffer
alone. -/
theorem writing_undoes_reading {octets : Octets} {endian : Endian} {descriptor : Descriptor}
    (accepted : ofOctets octets endian = .ok descriptor) :
    let count := descriptor.recordCount
    ∃ records : List UInt32, descriptor.spans.mapM Span.encode = .ok records ∧
      records.length = count ∧
      (count ≤ maxRecords → ∀ out : Octets, 24 + 4 * count ≤ out.size →
        ∃ buffer, writeFields descriptor.header records out endian = (.ok (24 + 4 * count), buffer) ∧
          writePacked descriptor.header records out endian = (.ok (24 + 4 * count), buffer) ∧
          buffer.extract 0 (24 + 4 * count) =
            Octets.clearReserved (octets.extract 0 (24 + 4 * count)) endian) ∧
      (maxRecords < count → ∀ out : Octets,
        writeFields descriptor.header records out endian = (.error .overflow, out) ∧
          writePacked descriptor.header records out endian = (.error .overflow, out)) := by
  intro count
  obtain ⟨records, length, spans, held⟩ := exists_row_of_ofOctets accepted
  obtain ⟨extent, -⟩ := of_ofOctets accepted
  have bytes : Layout.size records.length = 24 + 4 * count := by
    rw [Layout.size_eq, length]
    omega
  have front : descriptor.octets = octets.extract 0 (24 + 4 * count) := by
    rw [← bytes, length]
    exact congrArg Descriptor.octets extent
  refine ⟨records, ?_, length, fun few out room => ?_, fun many out => ?_⟩
  · rw [spans, mapM_encode_decode]
  · have checked : Layout.checkedSize records out = .ok (24 + 4 * count) := by
      rw [Layout.checkedSize_eq, if_neg (by omega), if_neg (by omega), bytes]
    have stored : store descriptor.header records out endian =
        (.ok (24 + 4 * count), out.putWords endian 0 (words endian descriptor.header records)) := by
      rw [store, checked]
    -- What is written holds the same row as the descriptor with its reserved bits cleared.
    have written := holds_stored descriptor.header (bytes ▸ room) endian
    rw [bytes] at written
    refine ⟨_, (writeFields_eq ..).trans stored, (writePacked_eq ..).trans stored, ?_⟩
    rw [← front]
    exact written.octets_eq.trans held.octets_eq.symm
  · have checked : Layout.checkedSize records out = .error .overflow := by
      rw [Layout.checkedSize_eq, if_pos (by omega)]
    have stored : store descriptor.header records out endian = (.error .overflow, out) := by
      rw [store, checked]
    exact ⟨(writeFields_eq ..).trans stored, (writePacked_eq ..).trans stored⟩

/-- A descriptor of one span whose octets have nearly all bits set. -/
theorem writing_undoes_reading_filled :
    let filled : Octets :=
      #[0xff, 0xff, 0xff, 0xff, 0xff, 0xff, 0xff, 0xff, 0xff, 0xff, 0xff, 0xff, 0x07, 0xff, 0xff,
        0xff, 0xff, 0xff, 0xff, 0xff, 0xff, 0xff, 0xff, 0xff, 0xff, 0xff, 0xff, 0xff]
    ∃ descriptor records, ofOctets filled .big = .ok descriptor ∧
      descriptor.spans.mapM Span.encode = .ok records ∧
      ∀ out : Octets, 28 ≤ out.size →
        ∃ buffer, writeFields descriptor.header records out .big = (.ok 28, buffer) ∧
          writePacked descriptor.header records out .big = (.ok 28, buffer) ∧
          buffer.extract 0 28 =
            #[0xff, 0xff, 0xff, 0xff, 0xff, 0xff, 0xff, 0xff, 0x0f, 0xff, 0xff, 0xff, 0x05, 0xff,
              0xff, 0xff, 0x3f, 0xff, 0xff, 0xff, 0xff, 0xff, 0xff, 0xff, 0xff, 0xff, 0xff,
              0xff] := by
  intro filled
  have told : (ofOctets filled .big).toOption.map recordCount = some 1 := by decide +kernel
  obtain ⟨descriptor, accepted, count⟩ := ok_of_map_toOption told
  obtain ⟨records, encoded, -, written, -⟩ := writing_undoes_reading accepted
  rw [count] at written
  refine ⟨descriptor, records, accepted, encoded, fun out room => ?_⟩
  obtain ⟨buffer, fields, packed, restored⟩ := written (by decide) out room
  exact ⟨buffer, fields, packed, restored.trans (by decide +kernel)⟩

end Descriptor

end FrameSpans
