import FrameSpans.Dissector.Basic
import FrameSpans.Proofs.Span

/-!
# What recording a span does

A span is accepted if the table has room, the span ends within the capture and its two numbers fit
into a word (`offer_isOk_iff`, `widen_isOk_iff`). An accepted span is one more record, or one record
exchanged, and at most the set of protocols changes besides (`of_offer`, `of_widen`).

All that follows about tables rests on these two descriptions, and nothing else looks into
`Dissector.offer` and `Dissector.widen`.
-/

namespace FrameSpans.Dissector

/-- There are as many spans as records. -/
theorem length_spans (d : Dissector) : d.spans.length = d.recordCount :=
  List.length_map _

/-! ## Room -/

/-- The table has room for so many more spans. -/
def HasRoom (d : Dissector) (count : Nat) : Prop :=
  ∀ capacity, d.capacity = some capacity → d.recordCount + count ≤ capacity

/-- A table with room for one more span is not full. -/
theorem HasRoom.isFull_eq {d : Dissector} {count : Nat} (h : d.HasRoom (count + 1)) :
    d.isFull = false := by
  unfold isFull
  split
  · rfl
  · next capacity bounded =>
    have enough := h capacity bounded
    exact decide_eq_false (by omega)

/-! ## Spans with a word -/

/-- The span ends within the capture, and its offset and its length fit into a word. -/
def Admits (d : Dissector) (span : Span) : Prop :=
  span.offset + span.length ≤ d.captureLength ∧ span.offset ≤ Span.maxOffset ∧
    span.length ≤ Span.maxLength

instance (d : Dissector) (span : Span) : Decidable (d.Admits span) :=
  inferInstanceAs (Decidable (_ ∧ _))

/-- A short capture admits every span that ends within it: no length or offset is too large for a
word. -/
theorem admits_of_le {d : Dissector} (short : d.captureLength ≤ Span.maxLength) {span : Span}
    (within : span.offset + span.length ≤ d.captureLength) : d.Admits span := by
  unfold Admits Span.maxOffset
  unfold Span.maxLength at short ⊢
  omega

/-- A word for a span is its word, and the span ends within the capture. -/
theorem of_wordFor {d : Dissector} {span : Span} {word : UInt32}
    (h : d.wordFor span = .ok word) : d.Admits span ∧ span.encode = .ok word := by
  unfold wordFor at h
  split at h
  · cases h
  · next stop ends =>
    unfold Span.end? at ends
    split at ends
    · cases ends
      split at h
      · cases h
      · next within =>
        split at h
        · next found encoded =>
          cases h
          obtain ⟨offset, length, -⟩ := Span.toNat_of_encode encoded
          refine ⟨⟨by omega, ?_, ?_⟩, encoded⟩
          · rw [Span.maxOffset]
            omega
          · rw [Span.maxLength]
            omega
        · cases h
    · cases ends

/-- A span that ends within the capture and fits into a word has one. -/
theorem wordFor_of_admits {d : Dissector} {span : Span} (h : d.Admits span) :
    ∃ word, d.wordFor span = .ok word := by
  obtain ⟨within, offset, length⟩ := h
  -- A span that fits into a word is far too small for its end not to be an offset.
  have bound : span.offset + span.length < offsetBound := by
    rw [Span.maxOffset] at offset
    rw [Span.maxLength] at length
    rw [offsetBound]
    omega
  obtain ⟨word, encoded⟩ := Span.exists_encode offset length
  rw [wordFor, Span.end?, if_pos bound]
  dsimp only
  rw [if_neg (by omega), encoded]
  exact ⟨word, rfl⟩

/-- A span without a word is not refused for want of a record. -/
theorem ne_vacant_of_wordFor {d : Dissector} {span : Span} {reason : Refusal}
    (h : d.wordFor span = .error reason) : reason ≠ .vacant := by
  rintro rfl
  unfold wordFor at h
  split at h
  · cases h
  · split at h
    · cases h
    · split at h <;> cases h

/-! ## Another record -/

/-- What accepting a span does: its word is one more record, and the id of a protocol header is
added to the set of protocols. -/
theorem of_offer {d d' : Dissector} {span : Span} (h : d.offer span = .ok d') :
    d.isFull = false ∧ d.Admits span ∧ ∃ word, span.encode = .ok word ∧
      d' = { d with
        records := d.records ++ [word]
        scalars := { d.scalars with
          bitmask := if span.id.kind = .protocol then d.scalars.bitmask.insert span.id
            else d.scalars.bitmask } } := by
  unfold offer at h
  split at h
  · cases h
  · next room =>
    refine ⟨Bool.eq_false_iff.mpr room, ?_⟩
    split at h
    · cases h
    · next word found =>
      obtain ⟨admits, encoded⟩ := of_wordFor found
      refine ⟨admits, word, encoded, ?_⟩
      split at h <;> next protocol =>
        cases h
        simp only [protocol, if_true, if_false]

/-- A span is accepted if the table has room and the span ends within the capture and has a word. -/
theorem offer_isOk_iff (d : Dissector) (span : Span) :
    (d.offer span).isOk = true ↔ d.isFull = false ∧ d.Admits span := by
  constructor
  · intro h
    cases offered : d.offer span with
    | error reason =>
      rw [offered] at h
      cases h
    | ok recorded =>
      obtain ⟨room, admits, -⟩ := of_offer offered
      exact ⟨room, admits⟩
  · rintro ⟨room, admits⟩
    obtain ⟨word, found⟩ := wordFor_of_admits admits
    rw [offer, if_neg (by rw [room]; decide), found]
    dsimp only
    split <;> rfl

/-- A result that is no refusal is a value. -/
theorem exists_of_isOk {α ε : Type} {result : Except ε α} (h : result.isOk = true) :
    ∃ value, result = .ok value := by
  cases result with
  | ok value => exact ⟨value, rfl⟩
  | error reason => cases h

/-- A table with room accepts a span that it admits. -/
theorem offer_of_admits {d : Dissector} {span : Span} (free : d.isFull = false)
    (admits : d.Admits span) : ∃ recorded, d.offer span = .ok recorded :=
  exists_of_isOk ((d.offer_isOk_iff span).mpr ⟨free, admits⟩)

/-- A full table refuses every span. -/
theorem offer_of_isFull {d : Dissector} (full : d.isFull = true) (span : Span) :
    d.offer span = .error .full :=
  if_pos full

/-- A span that is offered as one more record is not refused for want of a record. -/
theorem ne_vacant_of_offer {d : Dissector} {span : Span} {reason : Refusal}
    (h : d.offer span = .error reason) : reason ≠ .vacant := by
  unfold offer at h
  split at h
  · cases h
    nofun
  · split at h
    · next refused =>
      cases h
      exact ne_vacant_of_wordFor refused
    · split at h <;> cases h

/-- An accepted span is the last one of the table. -/
theorem spans_of_offer {d d' : Dissector} {span : Span} (h : d.offer span = .ok d') :
    d'.spans = d.spans ++ [span] := by
  obtain ⟨-, -, word, encoded, rfl⟩ := of_offer h
  rw [spans, List.map_append, List.map_singleton, Span.decode_of_encode encoded]
  rfl

/-! ## A record exchanged -/

/-- What accepting a span in the place of a record does: its word is in that place. -/
theorem of_widen {d d' : Dissector} {index : Nat} {span : Span}
    (h : d.widen index span = .ok d') :
    index < d.recordCount ∧ d.Admits span ∧ ∃ word, span.encode = .ok word ∧
      d' = { d with records := d.records.set index word } := by
  unfold widen at h
  split at h
  · cases h
  · next occupied =>
    split at h
    · cases h
    · next word found =>
      obtain ⟨admits, encoded⟩ := of_wordFor found
      cases h
      exact ⟨by omega, admits, word, encoded, rfl⟩

/-- A span is accepted in the place of a record if there is one, and the span ends within the
capture and has a word. -/
theorem widen_isOk_iff (d : Dissector) (index : Nat) (span : Span) :
    (d.widen index span).isOk = true ↔ index < d.recordCount ∧ d.Admits span := by
  constructor
  · intro h
    cases widened : d.widen index span with
    | error reason =>
      rw [widened] at h
      cases h
    | ok recorded =>
      obtain ⟨occupied, admits, -⟩ := of_widen widened
      exact ⟨occupied, admits⟩
  · rintro ⟨occupied, admits⟩
    obtain ⟨word, found⟩ := wordFor_of_admits admits
    rw [widen, if_neg (by omega), found]
    rfl

/-- A span that is admitted is accepted in the place of a record. -/
theorem widen_of_admits {d : Dissector} {index : Nat} {span : Span}
    (occupied : index < d.recordCount) (admits : d.Admits span) :
    ∃ widened, d.widen index span = .ok widened :=
  exists_of_isOk ((d.widen_isOk_iff index span).mpr ⟨occupied, admits⟩)

/-- A span that is offered in the place of a record which is there is not refused for want of it. -/
theorem ne_vacant_of_widen {d : Dissector} {index : Nat} (occupied : index < d.recordCount)
    {span : Span} {reason : Refusal} (h : d.widen index span = .error reason) :
    reason ≠ .vacant := by
  rw [widen, if_neg (Nat.not_le.mpr occupied)] at h
  split at h
  · next refused =>
    cases h
    exact ne_vacant_of_wordFor refused
  · cases h

/-- A span that was accepted in the place of a record stands in that place. -/
theorem spans_of_widen {d d' : Dissector} {index : Nat} {span : Span}
    (h : d.widen index span = .ok d') : d'.spans = d.spans.set index span := by
  obtain ⟨-, -, word, encoded, rfl⟩ := of_widen h
  rw [spans, List.map_set, Span.decode_of_encode encoded]
  rfl

end FrameSpans.Dissector
