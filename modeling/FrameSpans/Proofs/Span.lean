import FrameSpans.Span
import Mathlib.Algebra.Group.Nat.Defs

/-!
# Words of spans

The word of a span is a number whose digits are its id, its length and its offset
(`toNat_of_encode`), so the span is read off it again (`decode_of_encode`). The digits of any word
are those of a span, so every word is the word of the span that it decodes to (`encode_decode`), and
a table of words is told by its spans (`decode_injective`). Both directions together are
`words_match_spans`.
-/

namespace FrameSpans

/-- Seven bits are those of the id that they give. -/
theorem ProtocolId.raw_ofRaw {raw : Nat} (h : raw < 128) : (ofRaw raw).raw = raw := by
  have codes : ∀ code < 4, (Class.ofCode code).code = code := by decide
  have kind : (Class.ofCode (raw / 32)).code = raw / 32 := codes _ (by omega)
  show (Class.ofCode (raw / 32)).code * 32 + raw % 32 = raw
  rw [kind]
  omega

namespace Span

/-- A span has a word if its offset and its length fit; the word is a sum of the three parts. -/
theorem toNat_of_encode {span : Span} {word : UInt32} (h : span.encode = .ok word) :
    span.offset < 2 ^ 13 ∧ span.length < 2 ^ 12 ∧
      word.toNat = span.id.raw * 2 ^ 25 + span.length * 2 ^ 13 + span.offset := by
  have id := span.id.raw_lt
  unfold encode maxOffset maxLength at h
  split at h
  · cases h
  · injection h with h
    have offset : span.offset < 2 ^ 13 := by omega
    have length : span.length < 2 ^ 12 := by omega
    refine ⟨offset, length, ?_⟩
    rw [← h]
    simp only [UInt32.toNat_or, UInt32.toNat_shiftLeft, UInt32.reduceToNat, Nat.reduceMod]
    rw [UInt32.toNat_ofNat_of_lt' (Nat.lt_trans id (by decide)),
      UInt32.toNat_ofNat_of_lt' (Nat.lt_trans length (by decide)),
      UInt32.toNat_ofNat_of_lt' (Nat.lt_trans offset (by decide)),
      Nat.mod_eq_of_lt (by rw [Nat.shiftLeft_eq]; omega),
      Nat.mod_eq_of_lt (by rw [Nat.shiftLeft_eq]; omega)]
    -- No two parts share a bit, so each bitwise or is a sum.
    rw [Nat.or_assoc, ← Nat.shiftLeft_add_eq_or_of_lt offset,
      ← Nat.shiftLeft_add_eq_or_of_lt (by rw [Nat.shiftLeft_eq]; omega), Nat.shiftLeft_eq,
      Nat.shiftLeft_eq]
    omega

/-- A span has a word if its offset and its length fit. -/
theorem exists_encode {span : Span} (offset : span.offset ≤ maxOffset)
    (length : span.length ≤ maxLength) : ∃ word, span.encode = .ok word := by
  rw [encode, if_neg (by omega)]
  exact ⟨_, rfl⟩

/-! ## Digits of a word -/

/-- The offset is the lowest digit of a word. -/
theorem offset_decode (word : UInt32) : (decode word).offset = word.toNat % 2 ^ 13 := by
  show (word &&& 0x1fff).toNat = word.toNat % 2 ^ 13
  rw [UInt32.toNat_and]
  show word.toNat &&& 2 ^ 13 - 1 = word.toNat % 2 ^ 13
  rw [Nat.and_two_pow_sub_one_eq_mod]

/-- The length is the middle digit of a word. -/
theorem length_decode (word : UInt32) : (decode word).length = word.toNat / 2 ^ 13 % 2 ^ 12 := by
  show (word >>> 13 &&& 0xfff).toNat = word.toNat / 2 ^ 13 % 2 ^ 12
  rw [UInt32.toNat_and, UInt32.toNat_shiftRight, Nat.shiftRight_eq_div_pow]
  show word.toNat / 2 ^ 13 &&& 2 ^ 12 - 1 = word.toNat / 2 ^ 13 % 2 ^ 12
  rw [Nat.and_two_pow_sub_one_eq_mod]

/-- The id is the highest digit of a word. -/
theorem id_decode (word : UInt32) : (decode word).id = .ofRaw (word.toNat / 2 ^ 25) := by
  show ProtocolId.ofRaw (word >>> 25).toNat = .ofRaw (word.toNat / 2 ^ 25)
  rw [UInt32.toNat_shiftRight, Nat.shiftRight_eq_div_pow]
  rfl

/-! ## Round trips -/

/-- The word of a span gives the span back. -/
theorem decode_of_encode {span : Span} {word : UInt32} (h : span.encode = .ok word) :
    decode word = span := by
  obtain ⟨offset, length, sum⟩ := toNat_of_encode h
  have idPart : word.toNat / 2 ^ 25 = span.id.raw := by omega
  have offsetPart : (decode word).offset = span.offset := by
    rw [offset_decode]
    omega
  have lengthPart : (decode word).length = span.length := by
    rw [length_decode]
    omega
  have idDecoded : (decode word).id = span.id := by
    rw [id_decode, idPart, ProtocolId.ofRaw_raw]
  calc decode word = ⟨(decode word).id, (decode word).offset, (decode word).length⟩ := rfl
    _ = ⟨span.id, span.offset, span.length⟩ := by rw [idDecoded, offsetPart, lengthPart]
    _ = span := rfl

/-- Every word is the word of the span that it decodes to. -/
theorem encode_decode (word : UInt32) : (decode word).encode = .ok word := by
  have small := word.toNat_lt
  have id : (decode word).id.raw = word.toNat / 2 ^ 25 := by
    rw [id_decode]
    exact ProtocolId.raw_ofRaw (by omega)
  obtain ⟨found, encoded⟩ : ∃ found, (decode word).encode = .ok found := by
    apply exists_encode
    · rw [offset_decode, maxOffset]
      omega
    · rw [length_decode, maxLength]
      omega
  -- The digits of what was found are those that were decoded.
  obtain ⟨-, -, sum⟩ := toNat_of_encode encoded
  have same : found = word := by
    apply UInt32.toNat_inj.mp
    rw [sum, id, offset_decode, length_decode]
    omega
  rw [encoded, same]

/-- No two words decode to the same span. -/
theorem decode_injective : Function.Injective decode := by
  intro word other same
  have encoded := congrArg encode same
  rw [encode_decode, encode_decode] at encoded
  exact Except.ok.inj encoded

/-! ## Words and spans -/

/-- Encoding fails exactly if the offset takes more than 13 bits or the length more than 12. -/
theorem encode_eq_error_iff (span : Span) :
    span.encode = .error .overflow ↔ 8191 < span.offset ∨ 4095 < span.length := by
  unfold encode maxOffset maxLength
  split
  · next wide => exact iff_of_true rfl wide
  · next fits => exact iff_of_false nofun fits

/-- The ordinal told by a word is that of the id of its span. -/
theorem toNat_decodeOrdinal (word : UInt32) :
    (decodeOrdinal word).toNat = (decode word).id.ordinal := by
  have masked : (word >>> 25 &&& 0x1f).toNat = (word >>> 25).toNat % 32 := by
    rw [UInt32.toNat_and]
    exact Nat.and_two_pow_sub_one_eq_mod _ 5
  show (word >>> 25 &&& 0x1f).toUInt8.toNat = (word >>> 25).toNat % 32
  rw [UInt32.toNat_toUInt8, masked]
  omega

/-- Spans that fit into a word and words are in bijection. A span has no word exactly if its offset
takes more than 13 bits or its length more than 12, and otherwise its word decodes to it and tells
the ordinal of its id. The upper seven bits of any word are an id, and the word is that of the span
that it decodes to. -/
theorem words_match_spans :
    (∀ span : Span,
      (span.encode = .error .overflow ↔ 8191 < span.offset ∨ 4095 < span.length) ∧
      (span.offset ≤ 8191 → span.length ≤ 4095 → ∃ word, span.encode = .ok word ∧
        decode word = span ∧ (decodeOrdinal word).toNat = span.id.ordinal)) ∧
    ∀ word : UInt32, ProtocolId.ofRaw? (word >>> 25).toNat = some (decode word).id ∧
      (decode word).encode = .ok word := by
  refine ⟨fun span => ⟨encode_eq_error_iff span, fun offset length => ?_⟩, fun word => ⟨?_, ?_⟩⟩
  · obtain ⟨word, encoded⟩ := exists_encode offset length
    have decoded := decode_of_encode encoded
    refine ⟨word, encoded, decoded, ?_⟩
    rw [toNat_decodeOrdinal, decoded]
  · have small := word.toNat_lt
    have bits : (word >>> 25).toNat < 128 := by
      rw [UInt32.toNat_shiftRight, Nat.shiftRight_eq_div_pow]
      show word.toNat / 2 ^ 25 < 128
      omega
    rw [ProtocolId.ofRaw?, if_pos bits]
    rfl
  · exact encode_decode word

/-- The greatest span that fits, with the id whose seven bits are all set: no bit of its word is
clear. -/
theorem words_match_spans_greatest :
    let span : Span := ⟨.ofClass .tcpOption 31, 8191, 4095⟩
    span.offset ≤ 8191 ∧ span.length ≤ 4095 ∧ ∃ word, span.encode = .ok word ∧
      decode word = span ∧ (decodeOrdinal word).toNat = 31 ∧ word = 0xffffffff := by
  intro span
  obtain ⟨word, encoded, decoded, ordinal⟩ :=
    (words_match_spans.1 span).2 (Nat.le_refl 8191) (Nat.le_refl 4095)
  have bits := encode_decode 0xffffffff
  rw [show decode 0xffffffff = span by decide, encoded] at bits
  exact ⟨Nat.le_refl _, Nat.le_refl _, word, encoded, decoded, ordinal, Except.ok.inj bits⟩

end Span

end FrameSpans
