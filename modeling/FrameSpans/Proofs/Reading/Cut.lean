import FrameSpans.Proofs.Reading.Truncation

/-!
# Readings of fewer octets

Two readings of one level, of fewer octets and of more (`Octets.Begins`), agree up to the point
where the shorter one runs out of octets. `Reading.Cut` lists the ways in which they may differ from
there on, and `Reading.cut_read` says that there is no other. The shorter reading finds nothing more
(`Reading.Barren`), or what it finds last is found in part: an Ethernet header without its last
tags, or an IPv6 header whose chain ends behind the octets.
-/

namespace FrameSpans

/-! ## Readings that find nothing -/

/-- A step that offers no span. -/
def Step.Idle : Step → Prop
  | .framing _ | .payload .. | .remark _ | .mark (.fragment _) => True
  | .header _ | .chained .. | .mark (.option _) => False

/-- An ending that leads to no place within so many octets. -/
def Ending.Behind (size : Nat) : Ending → Prop
  | .encapsulated _ offset | .consult _ offset _ => size ≤ offset
  | .complete | .stopped _ => True

namespace Reading

/-- A reading that offers no span and leads to no place within so many octets. -/
structure Barren (size : Nat) (reading : Reading) : Prop where
  /-- The steps offer no span. -/
  steps : ∀ step ∈ reading.steps, step.Idle
  /-- The ending leads behind the octets. -/
  ending : reading.ending.Behind size

namespace Barren

variable {size : Nat}

/-- A reading without steps. -/
theorem ends {ending : Ending} (h : ending.Behind size) : (Reading.ends ending).Barren size :=
  ⟨nofun, h⟩

/-- A reading that finds nothing more to read. -/
theorem complete : Reading.complete.Barren size :=
  .ends trivial

/-- A reading that stops. -/
theorem stopped (stop : Stop) : (Reading.stopped stop).Barren size :=
  .ends trivial

/-- A step that offers no span in front of a reading. -/
theorem after_one {step : Step} {rest : Reading} (idle : step.Idle) (h : rest.Barren size) :
    (after [step] rest).Barren size :=
  ⟨List.forall_mem_cons.mpr ⟨idle, h.steps⟩, h.ending⟩

/-- A reading that goes on with a result. -/
theorem attempt {α : Type} {result : Except Stop α} {next : α → Reading}
    (rest : ∀ value, result = .ok value → (next value).Barren size) :
    (Reading.attempt result next).Barren size := by
  cases result with
  | error stop => exact .stopped stop
  | ok value => exact rest value rfl

/-- A reading that needs a header that was not captured completely. -/
theorem of_short {α : Type} {data : Octets} {offset length : Nat} {result : Except Stop α}
    {next : α → Reading} (h : Guarded data.size result fun _ => offset + length ≤ data.size)
    (short : data.size < offset + length) : (Reading.attempt result next).Barren size :=
  .attempt fun _ found => absurd (h.value found) (Nat.not_le.mpr short)

/-- A reading that needs a header where nothing was captured. -/
theorem of_guarded {α : Type} {data : Octets} {offset length : Nat} {result : Except Stop α}
    {next : α → Reading} (h : Guarded data.size result fun _ => offset + length ≤ data.size)
    (pos : 0 < length) (behind : data.size ≤ offset) :
    (Reading.attempt result next).Barren size :=
  .of_short h (by omega)

end Barren

section Behind

variable {data : Octets} {offset : Nat} (behind : data.size ≤ offset)

include behind

/-- An IPX header behind the octets. -/
theorem barren_ipx : (ipx data offset).Barren data.size :=
  .of_guarded (data.guarded_require offset (by decide)) (by decide) behind

/-- A payload of an IP header behind the octets. -/
theorem barren_ipPayload (protocol : IpProtocol) (parent : ProtocolId) :
    (ipPayload data offset protocol parent).Barren data.size := by
  refine .after_one trivial ?_
  split
  · exact .of_guarded (TcpHeader.guarded_read data offset) (by decide) behind
  · exact .of_guarded (Ports.guarded_read data offset (by decide)) (by decide) behind
  · exact .of_guarded (data.guarded_require offset (by decide)) (by decide) behind
  · exact .of_guarded (IcmpHeader.guarded_read data offset) (by decide) behind
  · exact .of_guarded (GreHeader.guarded_read data offset) (by decide) behind
  · exact .of_guarded (data.guarded_require offset (by decide)) (by decide) behind
  · exact barren_ipx behind
  · exact .ends behind
  · exact .ends behind
  · exact .complete
  · exact .ends behind

/-- An IPv4 header behind the octets. -/
theorem barren_ipv4 : (ipv4 data offset).Barren data.size :=
  .of_guarded (Ipv4Header.guarded_read data offset) (by decide) behind

/-- An IPv6 header behind the octets. -/
theorem barren_ipv6 : (ipv6 data offset).Barren data.size :=
  .of_guarded (Ipv6Header.guarded_read data offset) (by decide) behind

/-- The payload of a link layer or GRE header behind the octets. -/
theorem barren_etherType (type : EtherType) : (etherType type data offset).Barren data.size := by
  unfold etherType
  split
  · exact barren_ipv4 behind
  · exact barren_ipv6 behind
  · exact .of_guarded (ArpHeader.guarded_read data offset) (by decide) behind
  · exact .of_guarded (ArpHeader.guarded_read data offset) (by decide) behind
  · exact barren_ipx behind
  · exact .ends behind
  · exact .ends behind

/-- Behind the octets a level finds nothing. -/
theorem barren_read (entry : Entry) : (read entry data offset).Barren data.size := by
  cases entry with
  | ethernet => exact .of_guarded (EthernetHeader.guarded_read data offset) (by decide) behind
  | etherType type => exact barren_etherType behind type
  | ip =>
    have missing : data.octet? offset = none := Array.getElem?_eq_none behind
    show (ip data offset).Barren data.size
    rw [ip, missing]
    exact .stopped _
  | ipv4 => exact barren_ipv4 behind
  | ipv6 => exact barren_ipv6 behind

end Behind

end Reading

/-! ## Readings that are cut -/

/-- The span that was found where the octets end, and the one that is found in more octets. Tags and
extension headers may have been missing. -/
def Span.Matches (span longer : Span) : Prop :=
  longer.id = span.id ∧ longer.offset = span.offset ∧
    (longer.length = span.length ∨ span.id = .ethernet ∨ span.id = .ipv6)

instance (span longer : Span) : Decidable (span.Matches longer) :=
  inferInstanceAs (Decidable (_ ∧ _))

/-- A span matches itself. -/
theorem Span.Matches.refl (span : Span) : span.Matches span :=
  ⟨rfl, rfl, .inl rfl⟩

/-- A step whose spans end within so many octets, with the chain that widens them. -/
def Step.Within (size : Nat) : Step → Prop
  | .header span => span.offset + span.length ≤ size
  | .mark found => found.Within size
  | .chained base marks length =>
    base.offset + (base.length + length) ≤ size ∧ ∀ mark ∈ marks, mark.Within size
  | .framing _ | .payload .. | .remark _ => True

namespace Reading

/-- How the reading of `size` octets differs from that of `size'` octets that begin with them. -/
inductive Cut (size size' : Nat) : Reading → Reading → Prop
  /-- It does not. -/
  | ends (ending : Ending) : Cut size size' (ends ending) (ends ending)
  /-- It finds nothing more. -/
  | barren {short long : Reading} (h : short.Barren size) : Cut size size' short long
  /-- It differs behind steps that it finds completely. -/
  | after {steps : List Step} {short long : Reading} (within : ∀ step ∈ steps, step.Within size)
    (rest : Cut size size' short long) : Cut size size' (after steps short) (after steps long)
  /-- There is one more header, which may be longer in more octets. -/
  | last {span span' : Span} {short long : Reading} (found : span.Matches span')
    (inside : span.offset + span.length ≤ size → span'.offset + span'.length ≤ size')
    (h : short.Barren size) :
    Cut size size' (after [.header span] short) (after [.header span'] long)
  /-- There is one more IPv6 header, whose chain goes on in more octets. -/
  | chained {base : Span} {front rear rear' : List Mark} {length length' : Nat}
    {short long : Reading} (header : base.id = .ipv6) (inside : base.offset + base.length ≤ size)
    (within : ∀ mark ∈ front, mark.Within size) (beyond : ∀ mark ∈ rear, mark.Beyond size)
    (h : short.Barren size) :
    Cut size size' (after [.chained base (front ++ rear) length] short)
      (after [.chained base (front ++ rear') length'] long)

namespace Cut

variable {size size' : Nat}

/-- A reading that finds nothing more to read. -/
theorem complete : Cut size size' complete complete :=
  .ends .complete

/-- A step that is found completely, in front of readings. -/
theorem after_one {step : Step} {short long : Reading} (within : step.Within size)
    (rest : Cut size size' short long) :
    Cut size size' (Reading.after [step] short) (Reading.after [step] long) :=
  .after (fun _ only => List.mem_singleton.mp only ▸ within) rest

/-- The framing, and a header that was captured completely, in front of readings. -/
theorem after_framed {type : L2Type} {span : Span} {short long : Reading}
    (within : span.offset + span.length ≤ size) (rest : Cut size size' short long) :
    Cut size size' (Reading.after [.framing type, .header span] short)
      (Reading.after [.framing type, .header span] long) :=
  .after (List.forall_mem_cons.mpr ⟨trivial, List.forall_mem_singleton.mpr within⟩) rest

/-- A reading that goes on with a result. -/
theorem attempt {α β : Type} {R : α → β → Prop} {result : Except Stop α} {result' : Except Stop β}
    {next : α → Reading} {next' : β → Reading} (lasts : Lasting R result result')
    (rest : ∀ value value', result = .ok value → R value value' →
      Cut size size' (next value) (next' value')) :
    Cut size size' (Reading.attempt result next) (Reading.attempt result' next') := by
  cases found : result with
  | error stop => exact .barren (.stopped stop)
  | ok value =>
    obtain ⟨value', found', same⟩ := lasts value found
    rw [found']
    exact rest value value' found same

/-- A reading that goes on with the same result. -/
theorem attempt_eq {α : Type} {result result' : Except Stop α} {next next' : α → Reading}
    (lasts : Lasting Eq result result')
    (rest : ∀ value, result = .ok value → Cut size size' (next value) (next' value)) :
    Cut size size' (Reading.attempt result next) (Reading.attempt result' next') :=
  attempt lasts fun value _ found same => same ▸ rest value found

end Cut

/-! ## Levels -/

section Levels

variable {data whole : Octets} (h : Octets.Begins data whole) (offset : Nat)

include h

/-- A TCP header. -/
theorem cut_tcp : Cut data.size whole.size (tcp data offset) (tcp whole offset) := by
  refine .attempt_eq (TcpHeader.lasting_read h offset) fun header read => ?_
  split
  · exact .after_one trivial .complete
  · next long =>
    have pos : 0 < header.headerLength := by
      have size : TcpHeader.size = 20 := rfl
      omega
    refine .attempt_eq (h.behind offset header.headerLength) fun payload passed => ?_
    obtain ⟨rfl, inside⟩ := (data.guarded_behind offset pos).value passed
    rw [HeaderOption.scan_begins h inside]
    refine .attempt_eq (.refl _) fun options scanned => ?_
    have within := (HeaderOption.guarded_scan data inside).value scanned
    refine .after (fun step member => ?_) (.ends _)
    rcases List.mem_cons.mp member with rfl | marked
    · exact inside
    · obtain ⟨mark, found, rfl⟩ := List.mem_map.mp marked
      obtain ⟨option, listed, read⟩ := List.mem_filterMap.mp found
      obtain ⟨id, -, rfl⟩ := Option.map_eq_some_iff.mp read
      exact Nat.le_trans (within option listed) inside

/-- A UDP header. -/
theorem cut_udp : Cut data.size whole.size (udp data offset) (udp whole offset) := by
  refine .attempt_eq (Ports.lasting_read h offset udpSize) fun ports read => ?_
  have inside := (Ports.guarded_read data offset (by decide)).value read
  exact .attempt_eq (.refl _) fun payload _ => .after_one inside (.ends _)

/-- A header of a fixed length that is not looked into. -/
theorem cut_fixed (id : ProtocolId) {length : Nat} (pos : 0 < length) :
    Cut data.size whole.size
      (attempt (data.require offset length) fun _ => after [.header ⟨id, offset, length⟩] complete)
      (attempt (whole.require offset length) fun _ =>
        after [.header ⟨id, offset, length⟩] complete) := by
  refine .attempt_eq (h.require offset length) fun _ enough => ?_
  exact .after_one ((data.guarded_require offset pos).value enough) .complete

/-- An IPX header. -/
theorem cut_ipx : Cut data.size whole.size (ipx data offset) (ipx whole offset) :=
  cut_fixed h offset .ipx (by decide)

/-- An ICMPv6 message. -/
theorem cut_icmpv6 : Cut data.size whole.size (icmpv6 data offset) (icmpv6 whole offset) := by
  refine .attempt (IcmpHeader.lasting_read h offset) fun header header' _ same => ?_
  rw [same]
  dsimp only
  split
  · exact .after_one trivial .complete
  · next length layout => exact cut_fixed h offset .icmpv6 (Icmpv6Type.pos_of_layout? (.inl layout))
  · next length layout =>
    have pos := Icmpv6Type.pos_of_layout? (.inr layout)
    refine .attempt_eq (h.behind offset length) fun quoted passed => ?_
    exact .after_one ((data.guarded_behind offset pos).value passed).2 (.ends _)

/-- A GRE header. -/
theorem cut_gre : Cut data.size whole.size (gre data offset) (gre whole offset) := by
  refine .attempt_eq (GreHeader.lasting_read h offset) fun header _ => ?_
  have pos : 0 < header.headerLength := Nat.succ_pos _
  refine .attempt_eq (h.behind offset header.headerLength) fun payload passed => ?_
  exact .after_one ((data.guarded_behind offset pos).value passed).2 (.ends _)

/-- The header behind an IP header. -/
theorem cut_ipPayload (protocol : IpProtocol) (parent : ProtocolId) :
    Cut data.size whole.size (ipPayload data offset protocol parent)
      (ipPayload whole offset protocol parent) := by
  refine .after_one trivial ?_
  cases protocol with
  | tcp => exact cut_tcp h offset
  | udp => exact cut_udp h offset
  | icmp => exact cut_fixed h offset .icmpv4 (by decide)
  | icmpv6 => exact cut_icmpv6 h offset
  | gre => exact cut_gre h offset
  | sctp => exact cut_fixed h offset .sctp (by decide)
  | ipxInIp => exact cut_ipx h offset
  | _ => exact .ends _

/-- An IPv4 header. -/
theorem cut_ipv4 : Cut data.size whole.size (ipv4 data offset) (ipv4 whole offset) := by
  refine .attempt_eq (Ipv4Header.lasting_read h offset) fun header read => ?_
  split
  · exact .after_one trivial .complete
  · next long =>
    have pos : 0 < header.headerLength := by
      have size : Ipv4Header.size = 20 := rfl
      omega
    refine .attempt_eq (h.behind offset header.headerLength) fun payload passed => ?_
    obtain ⟨rfl, inside⟩ := (data.guarded_behind offset pos).value passed
    rw [HeaderOption.scan_begins h inside]
    refine .attempt_eq (.refl _) fun options scanned => ?_
    have within := (HeaderOption.guarded_scan data inside).value scanned
    refine .after (fun step member => ?_) (.after (fun step member => ?_) ?_)
    · rcases List.mem_cons.mp member with rfl | marked
      · exact inside
      · obtain ⟨option, listed, rfl⟩ := List.mem_map.mp marked
        exact Nat.le_trans (within option listed) inside
    · split at member
      · cases List.mem_singleton.mp member
        trivial
      · cases member
    · split
      · exact .complete
      · exact cut_ipPayload h _ header.protocol .ipv4

/-- An IPv6 header. -/
theorem cut_ipv6 : Cut data.size whole.size (ipv6 data offset) (ipv6 whole offset) := by
  refine .attempt_eq (Ipv6Header.lasting_read h offset) fun header read => ?_
  have inside := (Ipv6Header.guarded_read data offset).value read
  refine .attempt_eq (.refl _) fun start sum => ?_
  obtain rfl := eq_add_of_advance sum
  unfold Chain.read
  cases followed : Chain.follow data (offset + Ipv6Header.size) header.nextHeader 0 true with
  | error stop => exact .barren (.stopped stop)
  | ok chain =>
    obtain ⟨chain', followed', ends, cut⟩ := Chain.cut_follow h (by exact inside) followed
    rw [followed', attempt_ok, attempt_ok]
    cases cut with
    | same same ends within =>
      subst same
      refine .attempt_eq (.refl _) fun payload _ => .after_one ⟨?_, within⟩ ?_
      · rw [← Nat.add_assoc]
        exact ends
      · split
        · exact .ends _
        · split
          · exact .complete
          · exact cut_ipPayload h payload chain'.next .ipv6
    | parted front rear rear' marks marks' within beyond behind =>
      rw [h.advance_eq ends, attempt_ok, marks, marks']
      cases sum : advance (offset + Ipv6Header.size) chain.length with
      | error stop => exact .barren (.stopped stop)
      | ok payload =>
        obtain rfl := eq_add_of_advance sum
        refine .chained rfl inside within beyond ?_
        split
        · exact .stopped _
        · next complete =>
          split
          · exact .complete
          · have chained : chain.complete = true := by
              rwa [Bool.not_eq_true', Bool.not_eq_false] at complete
            exact barren_ipPayload (Nat.le_of_lt (behind chained)) chain.next .ipv6

/-- An IP header of either version. -/
theorem cut_ip : Cut data.size whole.size (ip data offset) (ip whole offset) := by
  unfold ip
  cases captured : data.octet? offset with
  | none => exact .barren (.stopped _)
  | some first =>
    have inside : offset < data.size := (Array.getElem?_eq_some_iff.mp captured).1
    rw [h.octet?_eq inside, captured]
    dsimp only
    split
    · exact cut_ipv4 h offset
    · exact cut_ipv6 h offset
    · exact .after_one trivial .complete

/-- An ARP packet, whose addresses may be missing. -/
theorem cut_arp : Cut data.size whole.size (arp data offset) (arp whole offset) :=
  .attempt_eq (ArpHeader.lasting_read h offset) fun _ _ =>
    .last (.refl _) (fun inside => Nat.le_trans inside h.size_le) .complete

/-- The payload of a link layer or GRE header. -/
theorem cut_etherType (type : EtherType) :
    Cut data.size whole.size (etherType type data offset) (etherType type whole offset) := by
  cases type with
  | ipv4 => exact cut_ipv4 h offset
  | ipv6 => exact cut_ipv6 h offset
  | arp | rarp => exact cut_arp h offset
  | ipx => exact cut_ipx h offset
  | _ => exact .ends _

/-- A SNAP header. -/
theorem cut_snap : Cut data.size whole.size (snap data offset) (snap whole offset) := by
  refine .attempt_eq (.refl _) fun typeAt sum => .attempt_eq (.refl _) fun payload _ => ?_
  obtain rfl := eq_add_of_advance sum
  cases captured : data.word16? (offset + snapTypeAt) with
  | none => exact .barren (.stopped _)
  | some type =>
    -- The type is the last field of the header.
    have inside : offset + snapSize ≤ data.size := Octets.lt_size_of_word16? captured
    rw [h.word16?_eq (Octets.lt_size_of_word16? captured), captured]
    exact .after_framed inside (cut_etherType h payload (.ofValue type))

/-- What follows the Ethernet header of an 802.3 frame. The octets behind the header decide what it
is, and they are the same if they were captured. -/
theorem cut_ieee8023 {header header' : EthernetHeader}
    (same : offset + 2 ≤ data.size → header'.accessPoints = header.accessPoints ∧
      header'.isNovellRaw = header.isNovellRaw) :
    Cut data.size whole.size (ieee8023 data offset header) (ieee8023 whole offset header') := by
  by_cases captured : offset + 2 ≤ data.size
  · obtain ⟨accessPoints, novell⟩ := same captured
    unfold ieee8023
    rw [accessPoints, novell]
    split
    · exact .after_one trivial (cut_ipx h offset)
    · refine .attempt_eq (h.behind offset llcSize) fun position passed => ?_
      have inside := ((data.guarded_behind offset (by decide)).value passed).2
      split
      · exact .barren (.stopped _)
      · refine .after_framed inside ?_
        split
        · exact cut_snap h position
        · split
          · exact cut_ipx h position
          · exact .complete
  · -- Whatever the missing octets are taken for, no header was captured completely.
    refine .barren ?_
    have ipx : data.size < offset + ipxSize := by
      rw [ipxSize]
      omega
    have llc : data.size < offset + llcSize := by
      rw [llcSize]
      omega
    unfold ieee8023
    split
    · exact .after_one trivial (.of_short (data.guarded_require offset (by decide)) ipx)
    · refine .of_short ((data.guarded_behind offset (by decide)).mono fun _ passed => passed.2) llc

/-- An Ethernet frame, whose last tags may be missing. -/
theorem cut_ethernet : Cut data.size whole.size (ethernet data offset) (ethernet whole offset) := by
  refine .attempt (EthernetHeader.lasting_read h offset) fun header header' read ⟨type, same⟩ => ?_
  have inside := (EthernetHeader.guarded_read data offset).value read
  rw [EthernetHeader.is8023, EthernetHeader.is8023, type]
  split
  · refine .attempt_eq (.refl _) fun position sum => ?_
    obtain rfl := eq_add_of_advance sum
    exact .after_one inside (cut_ieee8023 h _ same)
  · cases unwrapped : TaggedType.unwrap data offset EthernetHeader.size
      (.ofValue header.typeOrLength) with
    | error stop => exact .barren (.stopped stop)
    | ok tagged =>
      obtain ⟨tagged', unwrapped', inside', equal⟩ := TaggedType.unwrap_begins h inside unwrapped
      rw [unwrapped', attempt_ok, attempt_ok]
      cases complete : tagged.complete with
      | true =>
        obtain rfl := equal complete
        rw [if_pos complete, if_pos rfl]
        refine .after_one ((TaggedType.guarded_unwrap data _ inside).value unwrapped) ?_
        exact .attempt_eq (.refl _) fun payload _ => cut_etherType h payload tagged'.etherType
      | false => exact .last ⟨rfl, rfl, .inr (.inl rfl)⟩ (fun _ => inside') (.stopped _)

/-- The readings of a level, wherever it starts. -/
theorem cut_read (entry : Entry) :
    Cut data.size whole.size (read entry data offset) (read entry whole offset) := by
  cases entry with
  | ethernet => exact cut_ethernet h offset
  | etherType type => exact cut_etherType h offset type
  | ip => exact cut_ip h offset
  | ipv4 => exact cut_ipv4 h offset
  | ipv6 => exact cut_ipv6 h offset

end Levels

end Reading

end FrameSpans
