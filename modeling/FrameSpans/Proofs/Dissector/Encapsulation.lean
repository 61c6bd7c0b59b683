import FrameSpans.Proofs.Dissector.Truncation
import FrameSpans.Proofs.Reading.Encapsulation

/-!
# How far encapsulation is followed

The policy says how many encapsulated packets are entered below the outermost one. Of IP datagrams
that carry each other, the innermost header is recorded exactly if there are as many levels as it
takes to enter them (`Dissector.innermost_recorded`): one for each datagram, and one more for each
that is in a bridged Ethernet frame. So a bridged frame is given up one level early
(`Dissector.bridged_datagram_unrecorded`).

Where a header stands is told by readings (`Reading.Finds`), and the walk is followed along them. It
comes to the header with room for it in the table (`Dissector.Awaits`), or to an encapsulated packet
for which no level is left. Handlers have no part in this: none is asked on the way.
-/

namespace FrameSpans

namespace Dissector

variable {data : Octets} {found span : Span} {headers levels : Nat} {d d' : Dissector}

/-! ## Waiting for a header -/

/-- The header is not recorded yet, and there is room for it as the last of so many headers. -/
structure Awaits (data : Octets) (found : Span) (headers : Nat) (d : Dissector) : Prop where
  /-- All octets were captured. -/
  captureLength_eq : d.captureLength = data.size
  /-- There is room for the headers. -/
  room : ∀ capacity, d.capacity = some capacity → d.recordCount + headers ≤ capacity
  /-- The header is not recorded yet. -/
  absent : found ∉ d.spans

/-- A header that is found is recorded, if it is not refused. -/
theorem take_of_offer {step : Step} (finds : step.Finds span) {recorded : Dissector}
    (offered : d.offer span = .ok recorded) : (d.take step).1 = recorded := by
  cases finds with
  | header =>
    show (d.addSpan span).1 = recorded
    rw [addSpan, offered]
  | unchained =>
    show (d.takeChained span [] 0).1 = recorded
    rw [takeChained, offered]
    rfl

namespace Awaits

/-- The next header is recorded. -/
theorem exists_offer (h : d.Awaits data found (headers + 1)) (short : data.size ≤ Span.maxLength)
    (captured : span.offset + span.length ≤ data.size) :
    ∃ recorded, d.offer span = .ok recorded := by
  have free : d.isFull = false := HasRoom.isFull_eq h.room
  rw [← h.captureLength_eq] at short captured
  exact offer_of_admits free (admits_of_le short captured)

/-- A header in front of the one that is awaited takes its room. -/
theorem record {recorded : Dissector} (h : d.Awaits data found (headers + 1))
    (offered : d.offer span = .ok recorded) (front : span.offset < found.offset) :
    recorded.Awaits data found headers := by
  have spans := spans_of_offer offered
  have kept := (Evolves.store offered).keeps
  have count : recorded.recordCount = d.recordCount + 1 := by
    rw [← length_spans, ← length_spans, spans, List.length_append]
    rfl
  refine ⟨kept.captureLength_eq.trans h.captureLength_eq, ?_, ?_⟩
  · intro capacity bounded
    have enough := h.room capacity (kept.capacity_eq.symm.trans bounded)
    omega
  · intro member
    rw [spans] at member
    rcases List.mem_append.mp member with early | last
    · exact h.absent early
    · rw [List.mem_singleton.mp last] at front
      exact Nat.lt_irrefl _ front

/-- A step that finds no header changes nothing. -/
theorem idle (h : d.Awaits data found headers) {step : Step} (idle : step.Idle) :
    (d.take step).1.Awaits data found headers := by
  obtain ⟨scalars, taken⟩ := d.take_idle idle
  rw [taken]
  exact ⟨h.captureLength_eq, h.room, h.absent⟩

/-- Entering an encapsulated packet changes nothing. -/
theorem enter (h : d.Awaits data found headers) :
    Awaits data found headers { d with depth := d.depth + 1 } :=
  ⟨h.captureLength_eq, h.room, h.absent⟩

end Awaits

/-! ## The walk -/

/-- A header that is awaited is recorded if and only if there are as many levels as it stands
further in. -/
theorem recorded_iff {reading : Reading} (short : data.size ≤ Span.maxLength)
    (finds : reading.Finds data found levels headers) (h : d.Awaits data found headers)
    (left : Nat) :
    found ∈ (follow (descend left) data reading d).dissector.spans ↔ levels ≤ left := by
  -- Induction on the way to the header. What was recorded is kept, whatever is found behind it.
  induction finds generalizing d left with
  | @here step rest finds captured =>
    obtain ⟨recorded, offered⟩ := h.exists_offer short captured
    have last : found ∈ recorded.spans := by
      rw [spans_of_offer offered]
      exact List.mem_append_right _ (List.mem_singleton.mpr rfl)
    rw [← take_of_offer finds offered] at last
    have grown := prefix_follow_after (growing_descend left) data [step] rest d
    exact iff_of_true (grown.mem last) (Nat.zero_le _)
  | @behind step span levels headers rest finds captured front later ih =>
    obtain ⟨recorded, offered⟩ := h.exists_offer short captured
    have taken : (d.takeAll [step]).1 = recorded := take_of_offer finds offered
    rw [follow_after, taken]
    exact ih (h.record offered front) left
  | passed idle later ih =>
    rw [follow_after]
    exact ih (h.idle idle) left
  | @entered entry offset levels headers deeper ih =>
    cases left with
    | zero => exact iff_of_false h.absent (Nat.not_succ_le_zero _)
    | succ left => exact (ih h.enter left).trans Nat.succ_le_succ_iff.symm

/-! ## Captures -/

/-- A datagram that is carried by others takes one level for each carrier, and one more for each
bridged frame: its header is recorded if and only if the policy has as many. -/
theorem innermost_recorded (d : Dissector) (link : d.config.link = .rawIp) {frame : Octets}
    {version : IpVersion} {carriers : List Carrier} {headers : Nat} {innermost : Span}
    (nest : frame.Nest version 0 carriers headers innermost)
    (short : frame.size ≤ Span.maxLength)
    (room : ∀ capacity, d.capacity = some capacity → headers ≤ capacity) {wireLength : Nat}
    (wired : frame.size ≤ wireLength) (timestamp : UInt64) :
    ∃ traced, d.reset.dissect frame frame.size wireLength timestamp = .ok traced ∧
      (innermost ∈ traced.1.spans ↔
        carriers.length + carriers.count .bridged ≤ d.config.maxDepth.toNat) := by
  refine ⟨_, d.reset.dissect_whole wired timestamp, ?_⟩
  have roomy : frame.size < offsetBound := Nat.lt_of_le_of_lt short (by decide)
  have started :
      (d.reset.started frame.size wireLength timestamp).Awaits frame innermost headers := {
    captureLength_eq := rfl
    room := fun capacity bounded => (Nat.zero_add headers).symm ▸ room capacity bounded
    absent := nofun }
  have outermost : (readLink d.config.link frame).Finds frame innermost
      (carriers.length + carriers.count .bridged) headers := by
    rw [link, readLink, nest.ip_eq]
    exact .passed trivial (nest.finds roomy)
  rw [Outcome.dissector_closed]
  exact recorded_iff short outermost started d.config.maxDepth.toNat

/-- A bridged frame with a VLAN tag, and in it an IPv6 datagram that carries an IPv4 datagram. It
takes three levels to enter the latter. -/
theorem innermost_recorded_tagged :
    let frame : Octets :=
      #[0x45, 0, 0, 106, 0, 0, 0, 0, 64, 47, 0, 0, 10, 0, 0, 1, 10, 0, 0, 2,
        0x20, 0, 0x65, 0x58, 0, 0, 0, 7,
        2, 0, 0, 0, 0, 3, 2, 0, 0, 0, 0, 4, 0x81, 0, 0, 5, 0x86, 0xdd,
        0x60, 0, 0, 0, 0, 20, 4, 64, 0xfe, 0x80, 0, 0, 0, 0, 0, 0, 0, 0, 0, 0, 0, 0, 0, 1,
        0xfe, 0x80, 0, 0, 0, 0, 0, 0, 0, 0, 0, 0, 0, 0, 0, 2,
        0x45, 0, 0, 20, 0, 0, 0, 0, 64, 59, 0, 0, 10, 0, 0, 3, 10, 0, 0, 4]
    let d : Dissector := { config := { link := .rawIp, maxDepth := 3 } }
    d.config.link = .rawIp ∧ frame.Nest .v4 0 [.bridged, .ip] 5 ⟨.ipv4, 86, 20⟩ ∧
      frame.size ≤ Span.maxLength ∧ (∀ capacity, d.capacity = some capacity → 5 ≤ capacity) ∧
      frame.size ≤ 106 ∧
      ∃ traced, d.reset.dissect frame frame.size 106 0 = .ok traced ∧
        ⟨.ipv4, 86, 20⟩ ∈ traced.1.spans := by
  intro frame d
  have whole (offset : Nat) (field : frame.word16? (offset + 6) = some 0) :
      frame.WholeIpv4 offset :=
    Octets.wholeIpv4_of_field field rfl
  have flags : frame.word16? 20 = some 0x2000 := by decide
  have tag : frame.word16? 40 = some 0x8100 := by decide
  have outer : frame.PlainIp 0 47 .v4 := ⟨by decide, by decide, whole 0 (by decide), by decide⟩
  have bridged : frame.Carries 20 .v6 47 .bridged 2 46 :=
    .bridged flags (by decide) (.typed (.tagged tag (.inl rfl) (.untagged (by decide))))
  have inner : frame.PlainIp 46 4 .v6 :=
    ⟨by decide, ⟨0x60, by decide, by decide⟩, by decide, by decide⟩
  have innermost : frame.PlainIp 86 59 .v4 :=
    ⟨by decide, by decide, whole 86 (by decide), by decide⟩
  have nest : frame.Nest .v4 0 [.bridged, .ip] 5 ⟨.ipv4, 86, 20⟩ :=
    .carries outer bridged (.carries inner .ip (.innermost innermost))
  have room : ∀ capacity, d.capacity = some capacity → 5 ≤ capacity := by
    rintro capacity ⟨⟩
    decide
  obtain ⟨traced, dissected, recorded⟩ :=
    innermost_recorded d rfl nest (by decide) room (by decide : frame.size ≤ 106) 0
  exact ⟨rfl, nest, by decide, room, by decide, traced, dissected, recorded.mpr (by decide)⟩

/-- A bridged frame is the only packet that this datagram carries, and one packet may be entered.
The datagram in the frame is not recorded, and neither is the frame. -/
theorem bridged_datagram_unrecorded :
    let frame : Octets :=
      #[0x45, 0, 0, 58, 0, 0, 0, 0, 64, 47, 0, 0, 10, 0, 0, 1, 10, 0, 0, 2, 0, 0, 0x65, 0x58,
        2, 0, 0, 0, 0, 3, 2, 0, 0, 0, 0, 4, 8, 0,
        0x45, 0, 0, 20, 0, 0, 0, 0, 64, 59, 0, 0, 10, 0, 0, 3, 10, 0, 0, 4]
    let d : Dissector := { config := { link := .rawIp, maxDepth := 1 } }
    let carriers : List Carrier := [.bridged]
    frame.Nest .v4 0 carriers 4 ⟨.ipv4, 38, 20⟩ ∧ frame.size ≤ Span.maxLength ∧ 4 ≤ maxRecords ∧
      carriers.length ≤ d.config.maxDepth.toNat ∧
      ∃ traced, d.reset.dissect frame frame.size 58 0 = .ok traced ∧
        traced.1.spans = [⟨.ipv4, 0, 20⟩, ⟨.gre, 20, 4⟩] := by
  intro frame d carriers
  have whole (offset : Nat) (field : frame.word16? (offset + 6) = some 0) :
      frame.WholeIpv4 offset :=
    Octets.wholeIpv4_of_field field rfl
  have flags : frame.word16? 20 = some 0 := by decide
  have outer : frame.PlainIp 0 47 .v4 := ⟨by decide, by decide, whole 0 (by decide), by decide⟩
  have bridged : frame.Carries 20 .v4 47 .bridged 2 38 :=
    .bridged flags (by decide) (.typed (.untagged (by decide)))
  have innermost : frame.PlainIp 38 59 .v4 :=
    ⟨by decide, by decide, whole 38 (by decide), by decide⟩
  have found : (d.reset.dissect frame frame.size 58 0).toOption.map (fun traced => traced.1.spans) =
      some [⟨.ipv4, 0, 20⟩, ⟨.gre, 20, 4⟩] := by
    decide +kernel
  obtain ⟨traced, dissected, spans⟩ := ok_of_map_toOption found
  exact ⟨.carries outer bridged (.innermost innermost), by decide, by decide, by decide, traced,
    dissected, spans⟩

end Dissector

end FrameSpans
