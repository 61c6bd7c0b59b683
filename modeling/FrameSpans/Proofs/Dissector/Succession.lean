import FrameSpans.Proofs.Dissector.Coverage
import FrameSpans.Proofs.Dissector.Handlers
import FrameSpans.Proofs.Reading.Succession
import Mathlib.Data.List.Chain

/-!
# The headers of a capture stand in a row

Without handlers the recorded headers tile the front of a capture: the first one starts it, each one
starts where the one before it ends, and none is empty (`Dissector.headers_tile`). And each one is
the header that the octets of the one before it select (`Dissector.headers_select`), so the table
tells the way that was taken through the packet.

Readings go from header to header like this (`Reading.linked_read`). What is left to show is that the
table keeps up with them, or nothing more is recorded at all. A header that is refused, and an IPv6
header that is not widened over its chain, leave a gap in the table, but then the table is full or
the gap reaches to the end of the capture, and no header comes behind it (`Dissector.Closed`).
`Dissector.Linked` says this of a state of the walk. Each step keeps it (`Linked.addSpan`,
`Linked.takeChained`, `Linked.take_passed`), and so do the levels, by induction on those that are
left.
-/

namespace FrameSpans

/-! ## Rows -/

/-- Spans in a row from the start of a capture: each one starts where the one before it ends and is
selected by it. The next one would start at `offset`, with the id that is `selected`. -/
inductive Span.Row (data : Octets) (first : Option ProtocolId) :
    List Span → Nat → Option ProtocolId → Prop
  /-- The row starts with the capture. -/
  | nil : Row data first [] 0 first
  /-- The row goes on with the span that is selected. -/
  | snoc {spans : List Span} {id : ProtocolId} {offset length : Nat} (pos : 0 < length)
    (row : Row data first spans offset (some id)) :
    Row data first (spans ++ [⟨id, offset, length⟩]) (offset + length)
      (Span.successor? data ⟨id, offset, length⟩)

namespace Span.Row

variable {data : Octets} {first selected : Option ProtocolId} {spans : List Span} {offset : Nat}

/-- A row without spans goes on at the start of the capture. -/
theorem offset_of_nil (h : Row data first spans offset selected) (none : spans = []) :
    offset = 0 := by
  cases h with
  | nil => rfl
  | snoc => cases List.append_ne_nil_of_right_ne_nil _ (List.cons_ne_nil _ _) none

/-- The first span of a row starts the capture. -/
theorem head_offset (h : Row data first spans offset selected) :
    ∀ span ∈ spans.head?, span.offset = 0 := by
  induction h with
  | nil => nofun
  | @snoc spans id offset length pos row ih =>
    intro span found
    rw [List.head?_append] at found
    cases spans with
    | nil =>
      cases found
      exact row.offset_of_nil rfl
    | cons head rest => exact ih span found

/-- No span of a row is empty. -/
theorem length_pos (h : Row data first spans offset selected) : ∀ span ∈ spans, 0 < span.length := by
  induction h with
  | nil => nofun
  | snoc pos row ih =>
    intro span member
    rcases List.mem_append.mp member with early | last
    · exact ih span early
    · rw [List.mem_singleton.mp last]
      exact pos

/-- A row goes on behind its last span, with the span that this one selects. -/
theorem getLast (h : Row data first spans offset selected) :
    ∀ last ∈ spans.getLast?, offset = last.offset + last.length ∧
      selected = last.successor? data := by
  cases h with
  | nil => nofun
  | snoc pos row =>
    intro last found
    rw [List.getLast?_append] at found
    cases found
    exact ⟨rfl, rfl⟩

/-- Each span of a row starts where the one before it ends, and is selected by it. -/
theorem isChain (h : Row data first spans offset selected) :
    spans.IsChain fun span next =>
      next.offset = span.offset + span.length ∧ span.successor? data = some next.id := by
  induction h with
  | nil => exact .nil
  | snoc pos row ih =>
    refine ih.append (.singleton _) ?_
    intro last found next only
    cases only
    obtain ⟨place, id⟩ := row.getLast last found
    exact ⟨place, id.symm⟩

end Span.Row

/-! ## States of the walk -/

namespace Dissector

/-- The protocol headers among the recorded spans. -/
def headers (d : Dissector) : List Span :=
  d.spans.filter fun span => span.id.kind = .protocol

/-- No header that starts at `offset` or behind it can be recorded any more. -/
def Closed (offset : Nat) (d : Dissector) : Prop :=
  d.isFull = true ∨ d.captureLength ≤ offset

section Headers

variable {d d' : Dissector} {span : Span}

/-- Spans that are no headers do not count. -/
theorem headers_of_append {front taken : List Span} (spans : d.spans = front ++ taken)
    (others : ∀ span ∈ taken, (Mark.option span).Classed) :
    d.headers = front.filter fun span => span.id.kind = .protocol := by
  have none : taken.filter (fun span => decide (span.id.kind = .protocol)) = [] := by
    rw [List.filter_eq_nil_iff]
    intro span member
    rw [decide_eq_true_iff]
    exact others span member
  rw [headers, spans, List.filter_append, none, List.append_nil]

/-- A header is the last one, whatever else is behind it. -/
theorem headers_of_cons (header : span.id.kind = .protocol) {front taken : List Span}
    (spans : d.spans = front ++ span :: taken)
    (others : ∀ span ∈ taken, (Mark.option span).Classed) :
    d.headers = (front.filter fun span => span.id.kind = .protocol) ++ [span] := by
  rw [List.append_cons] at spans
  rw [headers_of_append spans others, List.filter_append]
  congr 1
  exact List.filter_cons_of_pos (decide_eq_true header)

/-- Marks leave the headers alone. -/
theorem headers_takeMarks (d : Dissector) {marks : List Mark}
    (classed : ∀ mark ∈ marks, mark.Classed) : (d.takeMarks marks).1.headers = d.headers := by
  obtain ⟨taken, spans, found⟩ := d.spans_takeMarks classed
  exact headers_of_append spans fun span member => (found span member).2

/-- Where nothing can be recorded, nothing can be recorded later or further behind. -/
theorem Closed.evolve {offset offset' : Nat} {events : List Event} (h : d.Closed offset)
    (later : Evolves d events d') (behind : offset ≤ offset') : d'.Closed offset' := by
  rcases h with full | beyond
  · exact .inl (later.isFull full)
  · right
    rw [later.keeps.captureLength_eq]
    omega

/-- Behind a span that a short capture refuses nothing can be recorded. -/
theorem closed_of_refused (short : d.captureLength ≤ Span.maxLength) {reason : Refusal}
    (refused : d.offer span = .error reason) : d.Closed (span.offset + span.length) := by
  rcases Nat.lt_or_ge d.captureLength (span.offset + span.length) with beyond | within
  · exact .inr (Nat.le_of_lt beyond)
  · cases full : d.isFull with
    | true => exact .inl full
    | false =>
      obtain ⟨recorded, accepted⟩ := offer_of_admits full (admits_of_le short within)
      rw [refused] at accepted
      cases accepted

/-- Behind a span that is not accepted in the place of a record of a short capture nothing can be
recorded. -/
theorem closed_of_kept (short : d.captureLength ≤ Span.maxLength) {index : Nat}
    (occupied : index < d.recordCount) {reason : Refusal}
    (kept : d.widen index span = .error reason) : d.Closed (span.offset + span.length) := by
  rcases Nat.lt_or_ge d.captureLength (span.offset + span.length) with beyond | within
  · exact .inr (Nat.le_of_lt beyond)
  · obtain ⟨widened, accepted⟩ := widen_of_admits occupied (admits_of_le short within)
    rw [kept] at accepted
    cases accepted

/-- A span that is not empty is accepted only where something can be recorded. -/
theorem not_closed_of_offer (pos : 0 < span.length) (h : d.offer span = .ok d') :
    ¬d.Closed span.offset := by
  obtain ⟨free, ⟨within, -⟩, -⟩ := of_offer h
  rintro (full | beyond)
  · rw [free] at full
    cases full
  · omega

end Headers

/-- Without handlers, a dissector that has come to `offset` of a short capture, where a header with
the id that is `selected` is expected: the recorded headers are in a row up to there, or nothing more
can be recorded. -/
structure Linked (data : Octets) (first : Option ProtocolId) (offset : Nat)
    (selected : Option ProtocolId) (d : Dissector) : Prop where
  /-- There are no handlers. -/
  registry_eq : d.registry = none
  /-- The capture is that. -/
  captureLength_eq : d.captureLength = data.size
  /-- A span can be as long as the capture. -/
  short : data.size ≤ Span.maxLength
  /-- The headers are in a row, and it goes on here if at all. -/
  row : ∃ last next, Span.Row data first d.headers last next ∧
    (last = offset ∧ next = selected ∨ d.Closed offset)

namespace Linked

variable {data : Octets} {first selected : Option ProtocolId} {offset length : Nat}
  {id : ProtocolId} {d d' : Dissector}

/-- The capture is short. -/
theorem small (h : d.Linked data first offset selected) : d.captureLength ≤ Span.maxLength := by
  rw [h.captureLength_eq]
  exact h.short

/-- What a dissection does not touch does not have to be compared again. -/
theorem evolve {offset' : Nat} {selected' : Option ProtocolId} {events : List Event}
    (h : d.Linked data first offset selected) (later : Evolves d events d')
    (row : ∃ last next, Span.Row data first d'.headers last next ∧
      (last = offset' ∧ next = selected' ∨ d'.Closed offset')) :
    d'.Linked data first offset' selected' where
  registry_eq := later.keeps.registry_eq.trans h.registry_eq
  captureLength_eq := later.keeps.captureLength_eq.trans h.captureLength_eq
  short := h.short
  row := row

/-- Something else is recorded than a header. -/
theorem pass {events : List Event} (h : d.Linked data first offset selected)
    (later : Evolves d events d') (same : d'.headers = d.headers) :
    d'.Linked data first offset selected := by
  obtain ⟨last, next, row, here⟩ := h.row
  refine h.evolve later ⟨last, next, ?_, ?_⟩
  · rw [same]
    exact row
  · exact here.imp_right fun closed => closed.evolve later (Nat.le_refl _)

/-- If the header that is expected is accepted, the row goes on up to here. -/
theorem row_of_offer (h : d.Linked data first offset (some id)) (pos : 0 < length)
    (offered : d.offer ⟨id, offset, length⟩ = .ok d') :
    Span.Row data first d.headers offset (some id) := by
  obtain ⟨last, next, row, ⟨rfl, rfl⟩ | closed⟩ := h.row
  · exact row
  · exact absurd closed (not_closed_of_offer pos offered)

/-- If the header that is expected is refused, the row ends. -/
theorem refuse {events : List Event} {more : Nat} {reason : Refusal}
    (h : d.Linked data first offset selected)
    (refused : d.offer ⟨id, offset, length⟩ = .error reason) (later : Evolves d events d')
    (same : d'.headers = d.headers) (behind : offset + length ≤ more)
    (selected' : Option ProtocolId) : d'.Linked data first more selected' := by
  obtain ⟨last, next, row, -⟩ := h.row
  have closed := (closed_of_refused h.small refused).evolve later behind
  refine h.evolve later ⟨last, next, ?_, .inr closed⟩
  rw [same]
  exact row

/-- Offering the header that is expected. -/
theorem addSpan (h : d.Linked data first offset (some id)) (pos : 0 < length)
    (header : id.kind = .protocol) :
    (d.addSpan ⟨id, offset, length⟩).1.Linked data first (offset + length)
      (Span.successor? data ⟨id, offset, length⟩) := by
  unfold Dissector.addSpan
  cases offered : d.offer ⟨id, offset, length⟩ with
  | error reason => exact h.refuse offered (.nothing d) rfl (Nat.le_refl _) _
  | ok recorded =>
    have row := Span.Row.snoc pos (h.row_of_offer pos offered)
    refine h.evolve (.store offered) ⟨_, _, ?_, .inl ⟨rfl, rfl⟩⟩
    rw [headers_of_cons header (spans_of_offer offered) nofun]
    exact row

/-- Widening the last header over its chain. -/
theorem updateSpan (h : d.Linked data first (offset + length) selected)
    (header : id.kind = .protocol) {front taken : List Span}
    (spans : d.spans = front ++ ⟨id, offset, length⟩ :: taken)
    (others : ∀ span ∈ taken, (Mark.option span).Classed) (pos : 0 < length)
    (row : Span.Row data first (front.filter fun span => span.id.kind = .protocol) offset (some id))
    (more : Nat) :
    (d.updateSpan front.length ⟨id, offset, length + more⟩).1.Linked data first
      (offset + (length + more)) (Span.successor? data ⟨id, offset, length + more⟩) := by
  unfold Dissector.updateSpan
  cases widened : d.widen front.length ⟨id, offset, length + more⟩ with
  | ok whole =>
    have exchanged := spans_of_widen widened
    rw [spans, Span.set_length_append] at exchanged
    refine h.evolve (.widen widened) ⟨_, _, ?_, .inl ⟨rfl, rfl⟩⟩
    rw [headers_of_cons header exchanged others]
    exact .snoc (Nat.add_pos_left pos more) row
  | error reason =>
    -- The header stays as long as it is, and its chain reaches to the end of the capture.
    have occupied : front.length < d.recordCount := by
      rw [← d.length_spans, spans, List.length_append]
      exact Nat.lt_add_of_pos_right (Nat.succ_pos _)
    obtain ⟨last, next, still, -⟩ := h.row
    exact h.evolve (.nothing d)
      ⟨last, next, still, .inr (closed_of_kept h.small occupied widened)⟩

/-- Taking the header that is expected with its chain of extension headers. -/
theorem takeChained (h : d.Linked data first offset (some id)) (pos : 0 < length)
    (header : id.kind = .protocol) {marks : List Mark} (classed : ∀ mark ∈ marks, mark.Classed)
    (more : Nat) :
    (d.takeChained ⟨id, offset, length⟩ marks more).1.Linked data first (offset + (length + more))
      (Span.successor? data ⟨id, offset, length + more⟩) := by
  have added := h.addSpan pos header
  unfold Dissector.takeChained
  unfold Dissector.addSpan at added
  cases offered : d.offer ⟨id, offset, length⟩ with
  | error reason =>
    have behind : offset + length ≤ offset + (length + more) := by omega
    exact h.refuse offered (d.evolves_takeMarks marks) (d.headers_takeMarks classed) behind _
  | ok recorded =>
    rw [offered] at added
    have marked :=
      added.pass (recorded.evolves_takeMarks marks) (recorded.headers_takeMarks classed)
    dsimp only
    by_cases none : more = 0
    · rw [if_pos none, none]
      exact marked
    · obtain ⟨taken, spans, found⟩ := recorded.spans_takeMarks classed
      rw [spans_of_offer offered, List.append_assoc, List.singleton_append] at spans
      rw [if_neg none, ← d.length_spans]
      exact marked.updateSpan header spans (fun span member => (found span member).2) pos
        (h.row_of_offer pos offered) more

/-- Taking a step that finds no header. -/
theorem take_passed (h : d.Linked data first offset selected) {step : Step} (passed : step.Passed)
    (classed : step.Classed) : (d.take step).1.Linked data first offset selected := by
  cases step with
  | header | chained => exact passed.elim
  | mark mark =>
    have same := d.headers_takeMarks (List.forall_mem_singleton.mpr classed)
    exact h.pass (d.evolves_takeMark mark) same
  | framing type =>
    show (d.setFraming type).Linked data first offset selected
    unfold setFraming
    split
    · exact ⟨h.registry_eq, h.captureLength_eq, h.short, h.row⟩
    · exact h
  | payload | remark => exact h

end Linked

end Dissector

/-! ## The walk -/

/-- Descending into the packet that is selected leaves the headers in a row. -/
def Descent.Linking (data : Octets) (first : Option ProtocolId) (deeper : Descent) : Prop :=
  ∀ (entry : Entry) (offset : Nat) (d : Dissector),
    d.Linked data first offset (entry.header? data offset) →
      ∃ last next, Span.Row data first (deeper entry data offset d).dissector.headers last next

/-- The outermost level of a capture is linked. -/
theorem Reading.linked_readLink (link : LinkType) (data : Octets) :
    ∃ first, Linked data 0 first (Dissector.readLink link data) := by
  cases link with
  | ethernet => exact ⟨_, linked_ethernet data 0⟩
  | rawIp => exact ⟨_, .passed trivial (linked_ip data 0)⟩

namespace Dissector

variable {data : Octets} {first selected : Option ProtocolId} {offset : Nat} {d : Dissector}

/-- Following a linked reading leaves the headers in a row. -/
theorem Linked.follow {deeper : Descent} (linking : deeper.Linking data first) {reading : Reading}
    (linked : Reading.Linked data offset selected reading) (classed : reading.Classed)
    (h : d.Linked data first offset selected) :
    ∃ last next, Span.Row data first (follow deeper data reading d).dissector.headers last next := by
  -- Induction on the headers that the reading goes through.
  induction linked generalizing d with
  | @ends offset selected ending none =>
    obtain ⟨last, next, row, -⟩ := h.row
    refine ⟨last, next, ?_⟩
    cases ending with
    | complete | stopped => exact row
    | encapsulated entry place => exact absurd rfl (none entry place)
    | consult id place inquiry =>
      have still := consult_of_registry_none deeper ⟨data, place, id, inquiry⟩ h.registry_eq
      show Span.Row data first (consult deeper ⟨data, place, id, inquiry⟩ d).1.headers last next
      rw [still]
      exact row
  | encapsulated offset entry => exact linking entry offset d h
  | header pos behind ih =>
    obtain ⟨here, others⟩ := (Reading.classed_after _ _).mp classed
    have header := List.forall_mem_singleton.mp here
    rw [follow_after]
    exact ih others (h.addSpan pos header)
  | chained pos behind ih =>
    obtain ⟨here, others⟩ := (Reading.classed_after _ _).mp classed
    obtain ⟨header, marks⟩ := List.forall_mem_singleton.mp here
    rw [follow_after]
    exact ih others (h.takeChained pos header marks _)
  | passed other behind ih =>
    obtain ⟨here, others⟩ := (Reading.classed_after _ _).mp classed
    rw [follow_after]
    exact ih others (h.take_passed other (List.forall_mem_singleton.mp here))

/-- Entering encapsulated packets leaves the headers in a row, however many levels are left. -/
theorem linking_descend (levels : Nat) : Descent.Linking data first (descend levels) := by
  -- Induction on the levels that are left, as for `evolves_descend`.
  induction levels with
  | zero =>
    intro entry offset d h
    obtain ⟨last, next, row, -⟩ := h.row
    exact ⟨last, next, row⟩
  | succ levels ih =>
    intro entry offset d h
    have entered : Linked data first offset (entry.header? data offset)
        { d with depth := d.depth + 1 } :=
      ⟨h.registry_eq, h.captureLength_eq, h.short, h.row⟩
    exact entered.follow ih (Reading.linked_read data offset entry)
      (Reading.classed_read data offset entry)

/-! ## Captures -/

/-- Without handlers, the headers that are recorded of a capture are in a row. -/
theorem row_of_capture (bare : d.registry = none) {frame : Octets}
    (short : frame.size ≤ Span.maxLength) {captureLength wireLength : Nat}
    (held : captureLength ≤ frame.size) (wired : captureLength ≤ wireLength)
    (timestamp : UInt64) :
    ∃ traced first last next,
      d.reset.dissect frame captureLength wireLength timestamp = .ok traced ∧
      Span.Row (frame.extract 0 captureLength) first traced.1.headers last next ∧
      ∀ span ∈ traced.1.headers, span.offset + span.length ≤ captureLength := by
  obtain ⟨first, linked⟩ :=
    Reading.linked_readLink d.config.link (frame.extract 0 captureLength)
  have size : (frame.extract 0 captureLength).size = captureLength := by
    rw [Array.size_extract]
    omega
  have captured : (frame.extract 0 captureLength).size ≤ Span.maxLength := by
    rw [size]
    exact Nat.le_trans held short
  have begun : (d.reset.started captureLength wireLength timestamp).Linked
      (frame.extract 0 captureLength) first 0 first :=
    ⟨bare, size.symm, captured, 0, first, .nil, .inl ⟨rfl, rfl⟩⟩
  have dissected := dissect_held (d := d.reset) held wired timestamp
  obtain ⟨-, -, evolved⟩ := evolves_dissect dissected
  obtain ⟨last, next, row⟩ := begun.follow (linking_descend _) linked
    (classed_readLink d.config.link (frame.extract 0 captureLength))
  refine ⟨_, first, last, next, dissected, ?_, ?_⟩
  · rw [Outcome.dissector_closed]
    exact row
  · intro span header
    have within := evolved.spans_within nofun span (List.mem_of_mem_filter header)
    rw [evolved.keeps.captureLength_eq] at within
    exact within

/-- Headers tile the front of a capture. Without handlers, the first header that is recorded starts
the capture, each one starts where the one before it ends, none is empty, and none goes beyond the
capture. -/
theorem headers_tile (d : Dissector) (bare : d.registry = none) {frame : Octets}
    (short : frame.size ≤ Span.maxLength) {captureLength wireLength : Nat}
    (held : captureLength ≤ frame.size) (wired : captureLength ≤ wireLength)
    (timestamp : UInt64) :
    ∃ traced, d.reset.dissect frame captureLength wireLength timestamp = .ok traced ∧
      (∀ span ∈ traced.1.headers.head?, span.offset = 0) ∧
      (traced.1.headers.IsChain fun span next => next.offset = span.offset + span.length) ∧
      ∀ span ∈ traced.1.headers, 0 < span.length ∧ span.offset + span.length ≤ captureLength := by
  obtain ⟨traced, first, last, next, dissected, row, within⟩ :=
    row_of_capture bare short held wired timestamp
  refine ⟨traced, dissected, row.head_offset, ?_, ?_⟩
  · exact row.isChain.imp fun span next related => related.1
  · exact fun span header => ⟨row.length_pos span header, within span header⟩

/-- Bridged Ethernet in GRE. The IPv6 header extends over its hop-by-hop options, and the GRE header
starts behind these. -/
theorem headers_tile_bridged :
    let frame : Octets :=
      #[2, 0, 0, 0, 0, 1, 2, 0, 0, 0, 0, 2, 0x86, 0xdd,
        0x60, 0, 0, 0, 0, 54, 0, 64, 0xfe, 0x80, 0, 0, 0, 0, 0, 0, 0, 0, 0, 0, 0, 0, 0, 1,
        0xfe, 0x80, 0, 0, 0, 0, 0, 0, 0, 0, 0, 0, 0, 0, 0, 2, 0x2f, 0, 1, 4, 0, 0, 0, 0,
        0, 0, 0x65, 0x58, 2, 0, 0, 0, 0, 3, 2, 0, 0, 0, 0, 4, 0x08, 0x00,
        0x45, 0, 0, 28, 0, 0, 0, 0, 64, 1, 0, 0, 10, 0, 0, 1, 10, 0, 0, 2, 8, 0, 0, 0, 0, 0, 0, 0]
    let d : Dissector := { config := {} }
    d.registry = none ∧ frame.size ≤ Span.maxLength ∧ 108 ≤ frame.size ∧ 108 ≤ 112 ∧
      ∃ traced, d.reset.dissect frame 108 112 0 = .ok traced ∧
        (∀ span ∈ traced.1.headers.head?, span.offset = 0) ∧
        (traced.1.headers.IsChain fun span next => next.offset = span.offset + span.length) ∧
        (∀ span ∈ traced.1.headers, 0 < span.length ∧ span.offset + span.length ≤ 108) ∧
        traced.1.headers = [⟨.ethernet, 0, 14⟩, ⟨.ipv6, 14, 48⟩, ⟨.gre, 62, 4⟩,
          ⟨.ethernet, 66, 14⟩, ⟨.ipv4, 80, 20⟩, ⟨.icmpv4, 100, 8⟩] := by
  intro frame d
  have short : frame.size ≤ Span.maxLength := by decide
  have held : 108 ≤ frame.size := by decide
  have wired : 108 ≤ 112 := by decide
  obtain ⟨traced, dissected, starts, behind, within⟩ := headers_tile d rfl short held wired 0
  have told : (d.reset.dissect frame 108 112 0).toOption.map (·.1.headers) =
      some [⟨.ethernet, 0, 14⟩, ⟨.ipv6, 14, 48⟩, ⟨.gre, 62, 4⟩, ⟨.ethernet, 66, 14⟩,
        ⟨.ipv4, 80, 20⟩, ⟨.icmpv4, 100, 8⟩] := by
    decide +kernel
  rw [dissected] at told
  exact ⟨rfl, short, held, wired, traced, dissected, starts, behind, within, Option.some.inj told⟩

/-- Each header is selected by the one before it. Without handlers, of two headers that are recorded
one behind the other the octets of the first one select the second one. -/
theorem headers_select (d : Dissector) (bare : d.registry = none) {frame : Octets}
    (short : frame.size ≤ Span.maxLength) {captureLength wireLength : Nat}
    (held : captureLength ≤ frame.size) (wired : captureLength ≤ wireLength)
    (timestamp : UInt64) :
    ∃ traced, d.reset.dissect frame captureLength wireLength timestamp = .ok traced ∧
      traced.1.headers.IsChain fun span next =>
        span.successor? (frame.extract 0 captureLength) = some next.id := by
  obtain ⟨traced, first, last, next, dissected, row, -⟩ :=
    row_of_capture bare short held wired timestamp
  exact ⟨traced, dissected, row.isChain.imp fun span next related => related.2⟩

/-- A quoted datagram in SNAP. Each way to tell the next header occurs: a length, service access
points, an ethertype, a protocol number, and a version. -/
theorem headers_select_quoted :
    let frame : Octets :=
      #[2, 0, 0, 0, 0, 1, 2, 0, 0, 0, 0, 2, 0, 84, 0xaa, 0xaa, 3, 0, 0, 0, 0x86, 0xdd,
        0x60, 0, 0, 0, 0, 36, 0x3a, 64, 0xfe, 0x80, 0, 0, 0, 0, 0, 0, 0, 0, 0, 0, 0, 0, 0, 1,
        0xfe, 0x80, 0, 0, 0, 0, 0, 0, 0, 0, 0, 0, 0, 0, 0, 2, 1, 4, 0, 0, 0, 0, 0, 0,
        0x45, 0, 0, 28, 0, 0, 0, 0, 64, 17, 0, 0, 10, 0, 0, 1, 10, 0, 0, 2, 0, 53, 0, 53, 0, 8, 0, 0]
    let d : Dissector := { config := {} }
    d.registry = none ∧ frame.size ≤ Span.maxLength ∧ 98 ≤ frame.size ∧ 98 ≤ 98 ∧
      ∃ traced, d.reset.dissect frame 98 98 0 = .ok traced ∧
        (traced.1.headers.IsChain fun span next =>
          span.successor? (frame.extract 0 98) = some next.id) ∧
        traced.1.headers = [⟨.ethernet, 0, 14⟩, ⟨.llc, 14, 3⟩, ⟨.snap, 17, 5⟩, ⟨.ipv6, 22, 40⟩,
          ⟨.icmpv6, 62, 8⟩, ⟨.ipv4, 70, 20⟩, ⟨.udp, 90, 8⟩] := by
  intro frame d
  have short : frame.size ≤ Span.maxLength := by decide
  have held : 98 ≤ frame.size := by decide
  obtain ⟨traced, dissected, selected⟩ := headers_select d rfl short held (Nat.le_refl 98) 0
  have told : (d.reset.dissect frame 98 98 0).toOption.map (·.1.headers) =
      some [⟨.ethernet, 0, 14⟩, ⟨.llc, 14, 3⟩, ⟨.snap, 17, 5⟩, ⟨.ipv6, 22, 40⟩,
        ⟨.icmpv6, 62, 8⟩, ⟨.ipv4, 70, 20⟩, ⟨.udp, 90, 8⟩] := by
    decide +kernel
  rw [dissected] at told
  exact ⟨rfl, short, held, Nat.le_refl 98, traced, dissected, selected, Option.some.inj told⟩

end Dissector

end FrameSpans
