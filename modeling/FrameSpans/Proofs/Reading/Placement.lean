import FrameSpans.Proofs.Reading.Chain
import FrameSpans.Proofs.Reading.Level

/-!
# Where a reading leads

A reading that starts at a position `Reading.Placed` there: an encapsulated packet does not start in
front of it, and handlers are asked about octets behind a header that was captured, the only
exception being the end of a chain of extension headers (`Chain.Overrun`). Extension headers are
found in such a chain only, between its start and its end.

As for sound readings there is one lemma for each header. `Reading.placed_read` has a condition,
because the payload of a header with an ethertype is handed to handlers unseen: it must start within
the captured octets. An IP header is looked at first, so it may be expected anywhere.
-/

namespace FrameSpans

/-! ## Placed readings -/

/-- A header of a protocol, a part of one other than an extension header, or an IPv6 header with
what its chain holds. -/
def Step.Placed : Step → Prop
  | .header span => span.id.kind = .protocol
  | .mark (.option span) => span.id.kind ≠ .ipv6Extension
  | .mark (.fragment _) => True
  | .chained base marks length =>
    base.id = .ipv6 ∧ base.length = Ipv6Header.size ∧ ∀ mark ∈ marks,
      mark.Between (base.offset + base.length) (base.offset + base.length + length)
  | .framing _ | .payload .. | .remark _ => True

/-- Whether the reading of a level looks at its first octets before it hands them on, or these are
captured. -/
def Entry.Placed (data : Octets) (entry : Entry) (offset : Nat) : Prop :=
  offset ≤ data.size ∨ entry = .ipv4 ∨ entry = .ipv6

/-- The position where handlers are asked lies within the captured octets, or they are asked about
the type of what stands behind a chain of extension headers that ends behind these. -/
def Inquiry.Placed (data : Octets) (id : ProtocolId) (offset : Nat) (inquiry : Inquiry) : Prop :=
  offset ≤ data.size ∨
    id = .ipv6 ∧ (∃ value, inquiry = .nextHeader value) ∧ Chain.Overrun data offset

/-- An ending that leads to a place behind `start`. -/
def Ending.Placed (data : Octets) (start : Nat) : Ending → Prop
  | .encapsulated entry offset => start ≤ offset ∧ entry.Placed data offset
  | .consult id offset inquiry => inquiry.Placed data id offset
  | .complete | .stopped _ => True

namespace Reading

/-- A reading of placed steps that leads to a place behind `start`. -/
structure Placed (data : Octets) (start : Nat) (reading : Reading) : Prop where
  /-- Each step is placed. -/
  steps : ∀ step ∈ reading.steps, step.Placed
  /-- The ending is placed. -/
  ending : reading.ending.Placed data start

namespace Placed

variable {data : Octets} {start : Nat}

/-- A reading without steps is placed if its ending is. -/
theorem ends {ending : Ending} (h : ending.Placed data start) :
    (Reading.ends ending).Placed data start :=
  ⟨fun _ member => (List.not_mem_nil member).elim, h⟩

/-- A reading that finds nothing more to read is placed. -/
theorem complete : Reading.complete.Placed data start :=
  .ends trivial

/-- A reading that stops is placed. -/
theorem stopped (stop : Stop) : (Reading.stopped stop).Placed data start :=
  .ends trivial

/-- Placed steps in front of a placed reading leave it placed. -/
theorem after {steps : List Step} {rest : Reading} (front : ∀ step ∈ steps, step.Placed)
    (h : rest.Placed data start) : (Reading.after steps rest).Placed data start := by
  refine ⟨fun step member => ?_, h.ending⟩
  rcases List.mem_append.mp member with early | late
  · exact front step early
  · exact h.steps step late

/-- A placed step in front of a placed reading leaves it placed. -/
theorem after_one {step : Step} {rest : Reading} (first : step.Placed)
    (h : rest.Placed data start) : (Reading.after [step] rest).Placed data start :=
  .after (fun _ member => List.mem_singleton.mp member ▸ first) h

/-- A reading that goes on with a result is placed if what follows is. -/
theorem attempt {α : Type} {result : Except Stop α} {next : α → Reading}
    (rest : ∀ value, result = .ok value → (next value).Placed data start) :
    (Reading.attempt result next).Placed data start := by
  cases result with
  | error stop => exact .stopped stop
  | ok value => exact rest value rfl

/-- A reading that is placed behind a position is placed behind an earlier one. -/
theorem mono {reading : Reading} {first : Nat} (h : reading.Placed data start)
    (before : first ≤ start) : reading.Placed data first := by
  refine ⟨h.steps, ?_⟩
  obtain ⟨-, ending⟩ := h
  cases found : reading.ending with
  | complete | stopped => trivial
  | encapsulated entry offset =>
    rw [found] at ending
    exact ⟨Nat.le_trans before ending.1, ending.2⟩
  | consult id offset inquiry =>
    rw [found] at ending
    exact ending

end Placed

end Reading

/-! ## Options -/

/-- An IPv4 option is no extension header. -/
theorem HeaderOption.placed_ipv4Mark (option : HeaderOption) :
    (Step.mark option.ipv4Mark).Placed :=
  nofun

/-- A TCP option is no extension header. -/
theorem HeaderOption.placed_tcpMark? {option : HeaderOption} {mark : Mark}
    (h : option.tcpMark? = some mark) : (Step.mark mark).Placed := by
  obtain ⟨id, found, rfl⟩ := Option.map_eq_some_iff.mp h
  unfold ProtocolId.tcpOption? at found
  split at found <;> cases found <;> nofun

/-! ## Levels -/

namespace Reading

/-- The reading of what follows an Ethernet header with its tags. -/
def behindTags (tagged : TaggedType) (data : Octets) (offset : Nat) : Reading :=
  if tagged.complete then
    attempt (advance offset tagged.length) fun payload => etherType tagged.etherType data payload
  else stopped .truncated

variable (data : Octets)

/-- A TCP header. -/
theorem placed_tcp (start offset : Nat) : (tcp data offset).Placed data start := by
  refine .attempt fun header read => ?_
  split
  · exact .after_one trivial .complete
  · next long =>
    have pos : 0 < header.headerLength := by
      have size : TcpHeader.size = 20 := rfl
      omega
    refine .attempt fun payload passed => ?_
    obtain ⟨rfl, inside⟩ := (data.guarded_behind offset pos).value passed
    refine .attempt fun options scanned => ?_
    refine .after ?_ (.ends (.inl inside))
    intro step member
    rcases List.mem_cons.mp member with rfl | marked
    · rfl
    · obtain ⟨mark, found, rfl⟩ := List.mem_map.mp marked
      obtain ⟨option, -, marked⟩ := List.mem_filterMap.mp found
      exact HeaderOption.placed_tcpMark? marked

/-- A UDP header. -/
theorem placed_udp (start offset : Nat) : (udp data offset).Placed data start := by
  refine .attempt fun ports read => ?_
  have inside := (Ports.guarded_read data offset (by decide)).value read
  refine .attempt fun payload sum => ?_
  obtain rfl := eq_add_of_advance sum
  exact .after_one rfl (.ends (.inl inside))

/-- An SCTP header. -/
theorem placed_sctp (start offset : Nat) : (sctp data offset).Placed data start :=
  .attempt fun _ _ => .after_one rfl .complete

/-- An IPX header. -/
theorem placed_ipx (start offset : Nat) : (ipx data offset).Placed data start :=
  .attempt fun _ _ => .after_one rfl .complete

/-- An ICMPv4 header. -/
theorem placed_icmpv4 (start offset : Nat) : (icmpv4 data offset).Placed data start :=
  .attempt fun _ _ => .after_one rfl .complete

/-- An ICMPv6 message. -/
theorem placed_icmpv6 (offset : Nat) : (icmpv6 data offset).Placed data offset := by
  refine .attempt fun header read => ?_
  dsimp only
  split
  · exact .after_one trivial .complete
  · exact .attempt fun _ _ => .after_one rfl .complete
  · next length layout =>
    have pos := Icmpv6Type.pos_of_layout? (.inr layout)
    refine .attempt fun quoted passed => ?_
    obtain ⟨rfl, inside⟩ := (data.guarded_behind offset pos).value passed
    exact .after_one rfl (.ends ⟨Nat.le_add_right _ _, .inl inside⟩)

/-- A GRE header. -/
theorem placed_gre (offset : Nat) : (gre data offset).Placed data offset := by
  refine .attempt fun header read => ?_
  have pos : 0 < header.headerLength := Nat.succ_pos _
  refine .attempt fun payload passed => ?_
  obtain ⟨rfl, inside⟩ := (data.guarded_behind offset pos).value passed
  exact .after_one rfl (.ends ⟨Nat.le_add_right _ _, .inl inside⟩)

/-- The header behind an IP header, whose end lies within the captured octets or is that of a chain
of extension headers. -/
theorem placed_ipPayload {offset : Nat} (protocol : IpProtocol) {parent : ProtocolId}
    (h : offset ≤ data.size ∨ parent = .ipv6 ∧ Chain.Overrun data offset) :
    (ipPayload data offset protocol parent).Placed data offset := by
  refine .after_one trivial ?_
  split
  · exact placed_tcp data offset offset
  · exact placed_udp data offset offset
  · exact placed_icmpv4 data offset offset
  · exact placed_icmpv6 data offset
  · exact placed_gre data offset
  · exact placed_sctp data offset offset
  · exact placed_ipx data offset offset
  · exact .ends ⟨Nat.le_refl _, .inr (.inl rfl)⟩
  · exact .ends ⟨Nat.le_refl _, .inr (.inr rfl)⟩
  · exact .complete
  · exact .ends (h.imp_right fun ⟨header, overrun⟩ => ⟨header, ⟨_, rfl⟩, overrun⟩)

/-- An IPv4 header. -/
theorem placed_ipv4 (offset : Nat) : (ipv4 data offset).Placed data offset := by
  refine .attempt fun header read => ?_
  split
  · exact .after_one trivial .complete
  · next long =>
    have pos : 0 < header.headerLength := by
      have size : Ipv4Header.size = 20 := rfl
      omega
    refine .attempt fun payload passed => ?_
    obtain ⟨rfl, inside⟩ := (data.guarded_behind offset pos).value passed
    refine .attempt fun options scanned => ?_
    refine .after ?_ (.after ?_ ?_)
    · intro step member
      rcases List.mem_cons.mp member with rfl | marked
      · rfl
      · obtain ⟨option, -, rfl⟩ := List.mem_map.mp marked
        exact option.placed_ipv4Mark
    · intro step member
      split at member
      · cases List.mem_singleton.mp member
        trivial
      · cases member
    · split
      · exact .complete
      · exact (placed_ipPayload data header.protocol (.inl inside)).mono (Nat.le_add_right _ _)

/-- An IPv6 header. -/
theorem placed_ipv6 (offset : Nat) : (ipv6 data offset).Placed data offset := by
  refine .attempt fun header read => ?_
  have inside := (Ipv6Header.guarded_read data offset).value read
  refine .attempt fun first sum => ?_
  obtain rfl := eq_add_of_advance sum
  refine .attempt fun chain found => ?_
  have begun : Chain.Reached data (offset + Ipv6Header.size + 0) := .inl inside
  obtain ⟨-, reached, marks⟩ := Chain.placed_follow begun found
  refine .attempt fun payload sum => ?_
  obtain rfl := eq_add_of_advance sum
  refine .after_one ⟨rfl, rfl, marks⟩ ?_
  split
  · exact .stopped _
  · split
    · exact .complete
    · refine (placed_ipPayload data chain.next ?_).mono (by omega)
      exact reached.imp_right fun overrun => ⟨rfl, overrun⟩

/-- An IP header of either version. -/
theorem placed_ip (offset : Nat) : (ip data offset).Placed data offset := by
  unfold ip
  split
  · exact .stopped _
  · split
    · exact placed_ipv4 data offset
    · exact placed_ipv6 data offset
    · exact .after_one trivial .complete

/-- An ARP packet. -/
theorem placed_arp (start offset : Nat) : (arp data offset).Placed data start :=
  .attempt fun _ _ => .after_one rfl .complete

/-- The payload of a link layer or GRE header, which starts within the captured octets. -/
theorem placed_etherType (type : EtherType) {offset : Nat} (inside : offset ≤ data.size) :
    (etherType type data offset).Placed data offset := by
  unfold etherType
  split
  · exact placed_ipv4 data offset
  · exact placed_ipv6 data offset
  · exact placed_arp data offset offset
  · exact placed_arp data offset offset
  · exact placed_ipx data offset offset
  · exact .ends ⟨Nat.le_refl _, .inl inside⟩
  · exact .ends (.inl inside)

/-- A SNAP header behind an LLC header. -/
theorem placed_snap (offset : Nat) : (snap data offset).Placed data offset := by
  refine .attempt fun typeAt sum => ?_
  obtain rfl := eq_add_of_advance sum
  refine .attempt fun payload sum => ?_
  obtain rfl := eq_add_of_advance sum
  split
  · exact .stopped _
  · next type found =>
    -- The type is the last field of the header.
    have inside : offset + snapSize ≤ data.size := Octets.lt_size_of_word16? found
    refine .after ?_ ((placed_etherType data (.ofValue type) inside).mono (Nat.le_add_right _ _))
    intro step member
    rcases List.mem_cons.mp member with rfl | header
    · trivial
    · cases List.mem_singleton.mp header
      rfl

/-- What follows the Ethernet header of an 802.3 frame. -/
theorem placed_ieee8023 (offset : Nat) (header : EthernetHeader) :
    (ieee8023 data offset header).Placed data offset := by
  unfold ieee8023
  split
  · exact .after_one trivial (placed_ipx data offset offset)
  · refine .attempt fun behind passed => ?_
    obtain ⟨rfl, -⟩ := (data.guarded_behind offset (by decide)).value passed
    split
    · exact .stopped _
    · refine .after ?_ ?_
      · intro step member
        rcases List.mem_cons.mp member with rfl | header
        · trivial
        · cases List.mem_singleton.mp header
          rfl
      · split
        · exact (placed_snap data _).mono (Nat.le_add_right _ _)
        · split
          · exact placed_ipx data offset _
          · exact .complete

/-- What follows an Ethernet header, whose tags lie within the captured octets. -/
theorem placed_behindTags (tagged : TaggedType) {offset : Nat}
    (inside : offset + tagged.length ≤ data.size) :
    (behindTags tagged data offset).Placed data (offset + tagged.length) := by
  unfold behindTags
  split
  · refine .attempt fun payload sum => ?_
    obtain rfl := eq_add_of_advance sum
    exact placed_etherType data tagged.etherType inside
  · exact .stopped _

/-- An Ethernet frame. -/
theorem placed_ethernet (offset : Nat) : (ethernet data offset).Placed data offset := by
  refine .attempt fun header read => ?_
  have fixed := (EthernetHeader.guarded_read data offset).value read
  split
  · refine .attempt fun behind sum => ?_
    obtain rfl := eq_add_of_advance sum
    exact .after_one rfl ((placed_ieee8023 data _ header).mono (Nat.le_add_right _ _))
  · refine .attempt fun tagged unwrapped => ?_
    have inside := (TaggedType.guarded_unwrap data _ fixed).value unwrapped
    exact .after_one rfl ((placed_behindTags data tagged inside).mono (Nat.le_add_right _ _))

/-- The reading of a level leads to a place behind its start. -/
theorem placed_read {entry : Entry} {offset : Nat} (h : entry.Placed data offset) :
    (read entry data offset).Placed data offset := by
  cases entry with
  | ethernet => exact placed_ethernet data offset
  | etherType type =>
    obtain inside | ⟨⟨⟩⟩ | ⟨⟨⟩⟩ := h
    exact placed_etherType data type inside
  | ip => exact placed_ip data offset
  | ipv4 => exact placed_ipv4 data offset
  | ipv6 => exact placed_ipv6 data offset

end Reading

end FrameSpans
