import FrameSpans.Proofs.Reading.Succession

/-!
# Headers come one behind the other

Wherever a level starts, each of its headers starts where the one before it ends, and so does what
the level leads to: an encapsulated packet, or the octets that handlers are asked about
(`Reading.Ordered`, `Reading.ordered_read`). This is less than `Reading.Linked` says of the headers
and more than it says of the ending. Handlers registered for UDP are asked behind a UDP header and
nowhere else, and the ports they are told are those of that header (`Reading.Ordered.udp`).

There is one lemma for each header. What a reader found is of interest only for UDP; of all others it
is enough where they end.
-/

namespace FrameSpans

/-- Where the ports of a transport header stand. -/
theorem Ports.fields_of_read {data : Octets} {offset size : Nat} {ports : Ports}
    (h : read data offset size = .ok ports) :
    data.word16? offset = some ports.source ∧
      data.word16? (offset + 2) = some ports.destination := by
  obtain ⟨_, _, h⟩ := ok_of_bind h
  obtain ⟨source, first, h⟩ := ok_of_bind h
  obtain ⟨destination, second, h⟩ := ok_of_bind h
  cases h
  exact ⟨Octets.word16?_of_word16 first, Octets.word16?_of_word16 second⟩

namespace Reading

/-- A reading whose headers stand one behind the other from the given position on, and that leads to
the position behind the last of them. -/
inductive Ordered (data : Octets) : Nat → Reading → Prop
  /-- Nothing more is read. -/
  | complete {offset : Nat} : Ordered data offset complete
  /-- Reading stops. -/
  | stopped {offset : Nat} (stop : Stop) : Ordered data offset (stopped stop)
  /-- An encapsulated packet comes next. -/
  | encapsulated (entry : Entry) (offset : Nat) :
    Ordered data offset (ends (.encapsulated entry offset))
  /-- Handlers are asked about what comes next. -/
  | consult {id : ProtocolId} (other : id ≠ .udp) (offset : Nat) (inquiry : Inquiry) :
    Ordered data offset (ends (.consult id offset inquiry))
  /-- A UDP header comes next, and handlers are asked about what is behind it. -/
  | udp {offset : Nat} {ports : Ports} (source : data.word16? offset = some ports.source)
    (destination : data.word16? (offset + 2) = some ports.destination) :
    Ordered data offset (after [.header ⟨.udp, offset, udpSize⟩]
      (ends (.consult .udp (offset + udpSize) (.ports ports.source ports.destination))))
  /-- A header comes next. -/
  | header {id : ProtocolId} {offset length : Nat} {rest : Reading}
    (behind : Ordered data (offset + length) rest) :
    Ordered data offset (after [.header ⟨id, offset, length⟩] rest)
  /-- A header with its chain comes next. -/
  | chained {id : ProtocolId} {offset length more : Nat} {marks : List Mark} {rest : Reading}
    (behind : Ordered data (offset + (length + more)) rest) :
    Ordered data offset (after [.chained ⟨id, offset, length⟩ marks more] rest)
  /-- Something else is found. -/
  | passed {step : Step} {offset : Nat} {rest : Reading} (other : step.Passed)
    (behind : Ordered data offset rest) : Ordered data offset (after [step] rest)

variable {data : Octets} {offset : Nat}

/-- A remark is all that is left of a header. -/
theorem Ordered.remark (remark : Remark) :
    Ordered data offset (after [.remark remark] Reading.complete) :=
  .passed trivial .complete

/-- A reading that goes on with a result. -/
theorem Ordered.attempt {α : Type} {result : Except Stop α} {next : α → Reading}
    (rest : ∀ value, result = .ok value → Ordered data offset (next value)) :
    Ordered data offset (attempt result next) := by
  cases result with
  | ok value => exact rest value rfl
  | error stop => exact .stopped stop

/-- Marks in front of a reading. -/
theorem Ordered.marks {rest : Reading} (h : Ordered data offset rest) (marks : List Mark) :
    Ordered data offset (after (marks.map .mark) rest) := by
  induction marks with
  | nil => exact h
  | cons mark others ih => exact .passed (show Step.Passed (.mark mark) from trivial) ih

/-- A header, and the marks found in it. -/
theorem Ordered.marked {id : ProtocolId} {length : Nat} {rest : Reading} (marks : List Mark)
    (behind : Ordered data (offset + length) rest) :
    Ordered data offset (after (.header ⟨id, offset, length⟩ :: marks.map .mark) rest) :=
  .header (behind.marks marks)

/-- The framing, and a header, in front of a reading. -/
theorem Ordered.framed {type : L2Type} {id : ProtocolId} {length : Nat} {rest : Reading}
    (behind : Ordered data (offset + length) rest) :
    Ordered data offset (after [.framing type, .header ⟨id, offset, length⟩] rest) :=
  .passed (show Step.Passed (.framing type) from trivial) (.header behind)

variable (data offset)

/-! ## Levels -/

/-- A TCP header. -/
theorem ordered_tcp : Ordered data offset (tcp data offset) := by
  refine .attempt fun header read => ?_
  split
  · exact .remark _
  · next long =>
    have pos : 0 < header.headerLength := by
      have size : TcpHeader.size = 20 := rfl
      omega
    refine .attempt fun payload passed => .attempt fun options scanned => ?_
    obtain ⟨rfl, -⟩ := (data.guarded_behind offset pos).value passed
    exact .marked _ (.consult (by decide) _ _)

/-- A UDP header. -/
theorem ordered_udp : Ordered data offset (udp data offset) := by
  refine .attempt fun ports read => .attempt fun payload sum => ?_
  obtain rfl := eq_add_of_advance sum
  obtain ⟨source, destination⟩ := Ports.fields_of_read read
  exact .udp source destination

/-- A header of fixed length, behind which nothing is read. -/
theorem ordered_fixed (id : ProtocolId) (length : Nat) :
    Ordered data offset (attempt (data.require offset length) fun _ =>
      after [.header ⟨id, offset, length⟩] complete) :=
  .attempt fun _ _ => .header .complete

/-- An ARP packet. -/
theorem ordered_arp : Ordered data offset (arp data offset) :=
  .attempt fun _ _ => .header .complete

/-- An ICMPv6 message, and the datagram that it quotes. -/
theorem ordered_icmpv6 : Ordered data offset (icmpv6 data offset) := by
  refine .attempt fun header read => ?_
  dsimp only
  split
  · exact .remark _
  · next length _ => exact ordered_fixed data offset .icmpv6 length
  · next length layout =>
    have pos := Icmpv6Type.pos_of_layout? (.inr layout)
    refine .attempt fun quoted passed => ?_
    obtain ⟨rfl, -⟩ := (data.guarded_behind offset pos).value passed
    exact .header (.encapsulated _ _)

/-- A GRE header, and the packet behind it. -/
theorem ordered_gre : Ordered data offset (gre data offset) := by
  refine .attempt fun header read => .attempt fun payload passed => ?_
  have pos : 0 < header.headerLength := Nat.succ_pos _
  obtain ⟨rfl, -⟩ := (data.guarded_behind offset pos).value passed
  exact .header (.encapsulated _ _)

/-- The header behind an IP header. -/
theorem ordered_ipPayload (protocol : IpProtocol) {parent : ProtocolId} (other : parent ≠ .udp) :
    Ordered data offset (ipPayload data offset protocol parent) := by
  refine .passed trivial ?_
  cases protocol with
  | tcp => exact ordered_tcp data offset
  | udp => exact ordered_udp data offset
  | icmp => exact ordered_fixed data offset .icmpv4 _
  | icmpv6 => exact ordered_icmpv6 data offset
  | gre => exact ordered_gre data offset
  | sctp => exact ordered_fixed data offset .sctp _
  | ipxInIp => exact ordered_fixed data offset .ipx _
  | ipInIp => exact .encapsulated .ipv4 offset
  | ipv6 => exact .encapsulated .ipv6 offset
  | ipv6NoNxt => exact .complete
  | _ => exact .consult other offset _

/-- An IPv4 header, and the payload of a datagram or of its first fragment. -/
theorem ordered_ipv4 : Ordered data offset (ipv4 data offset) := by
  refine .attempt fun header read => ?_
  split
  · exact .remark _
  · next long =>
    have pos : 0 < header.headerLength := by
      have size : Ipv4Header.size = 20 := rfl
      omega
    refine .attempt fun payload passed => .attempt fun options scanned => ?_
    obtain ⟨rfl, -⟩ := (data.guarded_behind offset pos).value passed
    rw [after_ipv4Marks]
    refine .marked _ ?_
    split
    · exact .complete
    · exact ordered_ipPayload data _ header.protocol (by decide)

/-- An IPv6 header with its extension headers, and the payload of a datagram or of its first
fragment. -/
theorem ordered_ipv6 : Ordered data offset (ipv6 data offset) := by
  refine .attempt fun header read => .attempt fun start sum => .attempt fun chain found => ?_
  refine .attempt fun payload passed => ?_
  obtain rfl := eq_add_of_advance sum
  obtain rfl := eq_add_of_advance passed
  refine .chained ?_
  split
  · exact .stopped _
  · split
    · exact .complete
    · rw [← Nat.add_assoc]
      exact ordered_ipPayload data _ chain.next (by decide)

/-- An IP header of the version that its first octet tells. -/
theorem ordered_ip : Ordered data offset (ip data offset) := by
  unfold ip
  split
  · exact .stopped _
  · split
    · exact ordered_ipv4 data offset
    · exact ordered_ipv6 data offset
    · exact .remark _

/-- The payload of a link layer or GRE header. -/
theorem ordered_etherType (type : EtherType) : Ordered data offset (etherType type data offset) := by
  cases type with
  | ipv4 => exact ordered_ipv4 data offset
  | ipv6 => exact ordered_ipv6 data offset
  | arp | rarp => exact ordered_arp data offset
  | ipx => exact ordered_fixed data offset .ipx _
  | transparentBridging => exact .encapsulated .ethernet offset
  | _ => exact .consult (by decide) offset _

/-- A SNAP header, and the payload of the type that it tells. -/
theorem ordered_snap : Ordered data offset (snap data offset) := by
  refine .attempt fun typeAt sum => .attempt fun payload passed => ?_
  obtain rfl := eq_add_of_advance passed
  split
  · exact .stopped _
  · exact .framed (ordered_etherType data _ _)

/-- What follows the Ethernet header of an 802.3 frame. -/
theorem ordered_ieee8023 (header : EthernetHeader) :
    Ordered data offset (ieee8023 data offset header) := by
  unfold ieee8023
  split
  · exact .passed trivial (ordered_fixed data offset .ipx _)
  · refine .attempt fun behind passed => ?_
    obtain ⟨rfl, -⟩ := (data.guarded_behind offset (by decide)).value passed
    split
    · exact .stopped _
    · refine .framed ?_
      split
      · exact ordered_snap data _
      · split
        · exact ordered_fixed data _ .ipx _
        · exact .complete

/-- An Ethernet frame. -/
theorem ordered_ethernet : Ordered data offset (ethernet data offset) := by
  refine .attempt fun header read => ?_
  split
  · refine .attempt fun behind sum => ?_
    obtain rfl := eq_add_of_advance sum
    exact .header (ordered_ieee8023 data _ header)
  · refine .attempt fun tagged found => .header ?_
    split
    · refine .attempt fun payload sum => ?_
      obtain rfl := eq_add_of_advance sum
      exact ordered_etherType data _ tagged.etherType
    · exact .stopped _

/-- Wherever a level starts, its headers stand one behind the other. -/
theorem ordered_read (entry : Entry) : Ordered data offset (read entry data offset) := by
  cases entry with
  | ethernet => exact ordered_ethernet data offset
  | etherType type => exact ordered_etherType data offset type
  | ip => exact ordered_ip data offset
  | ipv4 => exact ordered_ipv4 data offset
  | ipv6 => exact ordered_ipv6 data offset

end Reading

end FrameSpans
