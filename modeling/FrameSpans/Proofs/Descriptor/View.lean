import FrameSpans.Descriptor.View
import FrameSpans.Proofs.Descriptor.Writer

/-!
# Reading a written descriptor

A descriptor `Holds` a row of words if its octets are theirs and nothing else. A buffer into which a
descriptor was stored starts with one that holds its words (`ofOctets_stored`), and whoever holds
these words has the spans of the records (`spans_of_holds`) and the header with every value reduced
to the bits of its field (`header_of_holds`).
-/

namespace FrameSpans

open BitField (AllApart packAll)

/-- A header with its values reduced to the bits of their fields. The lengths fill theirs. -/
def Header.reduced (header : Header) : Header :=
  { header with
    rxPort := header.rxPort &&& 0x3f
    txPort := header.txPort &&& 0x3f
    l2Type := .ofValue (header.l2Type.value &&& 0x1f)
    hash := header.hash &&& 0xffffff
    hashType := header.hashType &&& 0xf }

namespace Descriptor

/-- The octets of the descriptor are those of a row of words. -/
structure Holds (descriptor : Descriptor) (words : List UInt32) : Prop where
  /-- There are no other octets. -/
  size_eq : descriptor.octets.size = 4 * words.length
  /-- Each word is found at its place. -/
  word?_eq : ∀ i (h : i < words.length), descriptor.word? (4 * i) = some words[i]

/-! ## Words -/

/-- The words from a place on are read in their order. -/
theorem wordsFrom_of_holds {descriptor : Descriptor} {words : List UInt32}
    (h : descriptor.Holds words) {i : Nat} (hi : i ≤ words.length) :
    descriptor.wordsFrom (4 * i) = words.drop i := by
  have size := h.size_eq
  -- Reading goes on until the octets end, so the induction is on the words that are left.
  generalize left : words.length - i = count
  induction count generalizing i with
  | zero =>
    have last : i = words.length := by omega
    rw [wordsFrom, if_neg (by omega), last, List.drop_length]
  | succ count ih =>
    have inside : i < words.length := by omega
    have next : 4 * i + Span.wordSize = 4 * (i + 1) := rfl
    rw [wordsFrom, if_pos (by omega), h.word?_eq i inside, List.drop_eq_getElem_cons inside]
    dsimp only
    rw [next, ih (by omega) (by omega)]

/-- The spans of a row that is long enough for a header are those of the words behind it. -/
theorem spans_of_row {descriptor : Descriptor} {words : List UInt32} (h : descriptor.Holds words)
    (long : 6 ≤ words.length) : descriptor.spans = (words.drop 6).map .decode :=
  congrArg (List.map Span.decode) (wordsFrom_of_holds h long)

/-- The spans are those of the words behind the header. -/
theorem spans_of_holds {descriptor : Descriptor} {endian : Endian} {header : Header}
    {records : List UInt32} (h : descriptor.Holds (words endian header records)) :
    descriptor.spans = records.map .decode := by
  have behind : (words endian header records).drop 6 = records := by
    cases endian <;> rfl
  have long : 6 ≤ (words endian header records).length := by
    rw [length_words]
    omega
  rw [spans_of_row h long, behind]

/-! ## Fields -/

/-- Each field of a word that packs several has the bits of its value that it has room for. -/
theorem fields_of_holds {descriptor : Descriptor} {words : List UInt32} (h : descriptor.Holds words)
    {i : Nat} {entries : List (BitField × UInt32)} (packed : words[i]? = some (packAll entries))
    (apart : AllApart entries)
    (placed : ∀ field ∈ entries.map Prod.fst, field.word = 4 * i ∧ field.Fits) :
    ∀ entry ∈ entries, descriptor.field entry.1 = entry.2 &&& entry.1.max := by
  intro entry member
  obtain ⟨inside, word⟩ := List.getElem?_eq_some_iff.mp packed
  obtain ⟨position, fits⟩ := placed entry.1 (List.mem_map_of_mem member)
  rw [Descriptor.field, position, h.word?_eq i inside, word]
  exact BitField.unpack_packAll apart member fits

/-- A flag that was stored as a bit is found again. -/
theorem flag_of_field {descriptor : Descriptor} {field : BitField} {b : Bool}
    (bit : field.max = 1) (h : descriptor.field field = flagBit b &&& field.max) :
    descriptor.flag field = b := by
  rw [flag, h, bit]
  cases b <;> decide

/-- The words of the header stand behind the timestamp. -/
theorem getElem?_words (endian : Endian) (header : Header) (records : List UInt32) :
    (words endian header records)[2]? = some (captureWord header) ∧
      (words endian header records)[3]? = some (wireWord header records.length) ∧
      (words endian header records)[4]? = some (hashWord header) ∧
      (words endian header records)[5]? = some header.bitmask.bits := by
  cases endian <;> exact ⟨rfl, rfl, rfl, rfl⟩

section Fields

variable {descriptor : Descriptor} {header : Header} {records : List UInt32}
  (h : descriptor.Holds (words descriptor.endian header records))

include h

/-- The fields at octet 8 have their values. -/
theorem captureFields_of_holds :
    ∀ entry ∈ captureFields header, descriptor.field entry.1 = entry.2 &&& entry.1.max := by
  refine fields_of_holds h (i := 2) ?_ (captureFields_apart header) ?_
  · rw [← captureWord_eq]
    exact (getElem?_words ..).1
  · show ∀ field ∈ [Layout.captureLength, Layout.rxPort, Layout.txPort],
      field.word = 8 ∧ field.Fits
    decide

/-- The fields at octet 12 have their values. -/
theorem wireFields_of_holds :
    ∀ entry ∈ wireFields header records.length,
      descriptor.field entry.1 = entry.2 &&& entry.1.max := by
  refine fields_of_holds h (i := 3) ?_ (wireFields_apart header records.length) ?_
  · rw [← wireWord_eq]
    exact (getElem?_words ..).2.1
  · show ∀ field ∈ [Layout.wireLength, Layout.txNow, Layout.txIgnore, Layout.txCrcOverride,
      Layout.txSetClock, Layout.l2Type, Layout.recordCount], field.word = 12 ∧ field.Fits
    decide

/-- The fields at octet 16 have their values. -/
theorem hashFields_of_holds :
    ∀ entry ∈ hashFields header, descriptor.field entry.1 = entry.2 &&& entry.1.max := by
  refine fields_of_holds h (i := 4) ?_ (hashFields_apart header) ?_
  · rw [← hashWord_eq]
    exact (getElem?_words ..).2.2.1
  · show ∀ field ∈ [Layout.hash, Layout.hashType, Layout.isFragment, Layout.isLastFragment],
      field.word = 16 ∧ field.Fits
    decide

/-- The protocols have a word of their own. -/
theorem bitmask_of_holds : descriptor.field Layout.bitmask = header.bitmask.bits := by
  have word := h.word?_eq 5 (by rw [length_words]; omega)
  have last := (getElem?_words descriptor.endian header records).2.2.2
  have whole : Layout.bitmask.max = -1 := by decide
  rw [← List.getElem?_eq_getElem, last] at word
  rw [Descriptor.field, show Layout.bitmask.word = 4 * 5 from rfl, word, Option.getD_some,
    BitField.unpack, whole, UInt32.and_neg_one]
  exact UInt32.shiftRight_zero

/-- The first two words are those of the timestamp. -/
theorem timestamp_of_holds : descriptor.timestamp = header.timestamp := by
  have read : descriptor.octets.stored64? descriptor.endian 0 = some header.timestamp := by
    refine Octets.stored64?_of_halves fun i hi => ?_
    have two := descriptor.endian.length_halves header.timestamp
    have long : i < (words descriptor.endian header records).length := by
      rw [length_words]
      omega
    have front : (words descriptor.endian header records)[i] =
        (descriptor.endian.halves header.timestamp)[i] := by
      simp only [words, List.append_assoc]
      exact List.getElem_append_left hi
    rw [Nat.zero_add, ← front]
    exact h.word?_eq i long
  rw [timestamp, Layout.timestampAt, read, Option.getD_some]

/-- The number of span words is found again, if the table may hold as many. -/
theorem recordCount_of_holds (few : records.length ≤ maxRecords) :
    descriptor.recordCount = records.length := by
  have wire := wireFields_of_holds h
  simp only [wireFields, List.forall_mem_cons] at wire
  obtain ⟨-, -, -, -, -, -, count, -⟩ := wire
  -- The field has six bits, and a table has fewer than 64 records.
  have bound : (Layout.recordCount.max).toNat = 2 ^ 6 - 1 := by decide
  have small : records.length < 2 ^ 6 := Nat.lt_of_le_of_lt few (by decide)
  rw [recordCount, count, UInt32.toNat_and, bound,
    UInt32.toNat_ofNat_of_lt' (Nat.lt_trans small (by decide)), Nat.and_two_pow_sub_one_eq_mod,
    Nat.mod_eq_of_lt small]

/-- The control flags are found again. -/
theorem txFlags_of_holds : descriptor.txFlags = header.txFlags := by
  have wire := wireFields_of_holds h
  simp only [wireFields, List.forall_mem_cons] at wire
  obtain ⟨-, now, ignore, crcOverride, setClock, -⟩ := wire
  rw [txFlags, flag_of_field (by decide) now, flag_of_field (by decide) ignore,
    flag_of_field (by decide) crcOverride, flag_of_field (by decide) setClock]

/-- The header is found again, as far as its values fit into their fields. -/
theorem header_of_holds : descriptor.header = header.reduced := by
  have capture := captureFields_of_holds h
  have wire := wireFields_of_holds h
  have hash := hashFields_of_holds h
  simp only [captureFields, wireFields, hashFields, List.forall_mem_cons] at capture wire hash
  obtain ⟨captureLength, rxPort, txPort, -⟩ := capture
  obtain ⟨wireLength, -, -, -, -, l2Type, -⟩ := wire
  obtain ⟨hash, hashType, isFragment, isLastFragment, -⟩ := hash
  rw [Descriptor.header, captureLength, rxPort, txPort, wireLength, l2Type, hash, hashType,
    flag_of_field (by decide) isFragment, flag_of_field (by decide) isLastFragment,
    bitmask_of_holds h, timestamp_of_holds h, txFlags_of_holds h]
  -- The lengths fill their fields, so nothing of them is lost.
  have captureMax : Layout.captureLength.max.toUInt16 = -1 := by decide
  have wireMax : Layout.wireLength.max.toUInt16 = -1 := by decide
  simp only [UInt32.toUInt16_and, UInt32.toUInt8_and, UInt16.toUInt16_toUInt32,
    UInt8.toUInt8_toUInt32, captureMax, wireMax, UInt16.and_neg_one]
  rfl

end Fields

/-! ## Descriptors in a buffer -/

/-- The record count stands in the header, so what is behind the header has no part in it. -/
theorem recordCount_extract {octets : Octets} {endian : Endian} {stop : Nat} (h : 24 ≤ stop) :
    recordCount ⟨octets.extract 0 stop, endian⟩ = recordCount ⟨octets, endian⟩ := by
  have inside : Layout.recordCount.word + 4 ≤ stop := by
    rw [show Layout.recordCount.word = 12 from rfl]
    omega
  unfold recordCount Descriptor.field word?
  dsimp only
  rw [Octets.stored32?_extract octets endian inside]

section Stored

variable (header : Header) {records : List UInt32} {out : Octets}
  (room : Layout.size records.length ≤ out.size) (endian : Endian)

include room

/-- The octets of a buffer into which a descriptor was stored hold its words. -/
theorem holds_stored :
    Holds ⟨(out.putWords endian 0 (words endian header records)).extract 0
      (Layout.size records.length), endian⟩ (words endian header records) := by
  have size := Layout.size_eq records.length
  have length := length_words endian header records
  constructor
  · rw [Array.size_extract, Octets.size_putWords, length]
    omega
  · intro i hi
    have stored := Octets.stored32?_putWords out endian 0 (words endian header records) hi
      (by omega)
    rw [Nat.zero_add] at stored
    rw [word?, Octets.stored32?_extract _ _ (by omega)]
    exact stored

/-- A buffer into which a descriptor was stored starts with that descriptor. -/
theorem ofOctets_stored (few : records.length ≤ maxRecords) :
    ofOctets (out.putWords endian 0 (words endian header records)) endian =
      .ok ⟨(out.putWords endian 0 (words endian header records)).extract 0
        (Layout.size records.length), endian⟩ := by
  have size := Layout.size_eq records.length
  -- The reader finds the record count before it knows where the descriptor ends.
  have count := recordCount_of_holds (holds_stored header room endian) few
  rw [recordCount_extract (by omega)] at count
  rw [ofOctets, if_neg, count, if_neg]
  · rw [Octets.size_putWords]
    omega
  · rw [Octets.size_putWords, Layout.headerSize]
    omega

end Stored

/-- A descriptor that was stored is found again: its size, its spans, and its header as far as the
values fit into their fields. -/
theorem ofOctets_store (header : Header) {records : List UInt32} (few : records.length ≤ maxRecords)
    {out : Octets} (room : Layout.size records.length ≤ out.size) (endian : Endian) :
    ∃ buffer descriptor,
      store header records out endian = (.ok (Layout.size records.length), buffer) ∧
        ofOctets buffer endian = .ok descriptor ∧
        descriptor.size = Layout.size records.length ∧
        descriptor.spans = records.map .decode ∧ descriptor.header = header.reduced := by
  have holds := holds_stored header room endian
  have size := holds.size_eq
  rw [length_words, ← Layout.size_eq] at size
  exact ⟨_, _, store_of_accepts header endian ⟨few, room⟩, ofOctets_stored header room endian few,
    size, spans_of_holds holds, header_of_holds holds⟩

end Descriptor

end FrameSpans
