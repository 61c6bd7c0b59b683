import FrameSpans.Proofs.Reading.Guarded
import FrameSpans.Reading.Level

/-!
# What a reading may contain

Whatever the octets and wherever reading starts, a reading is `Sound` (`Reading.sound_read`): the
framings it finds are known ones, no span ends far behind the capture, and reading does not end with
a fault as long as positions a little behind the capture are offsets.

There is one lemma for each header. Where a reading goes on with a result, `Reading.Sound.attempt`
takes what is known of the result from the lemmas on guarded readers.
-/

namespace FrameSpans

/-! ## Sound readings -/

/-- The end of a span lies no further behind the octets than the overhang. -/
def Span.Near (size : Nat) (span : Span) : Prop :=
  span.offset + span.length ≤ size + overhang

/-- A mark whose span does not end far behind the octets. -/
def Mark.Sound (size : Nat) : Mark → Prop
  | .option span => span.Near size
  | .fragment _ => True

/-- A step that finds a known framing, or spans that do not end far behind the octets. -/
def Step.Sound (size : Nat) : Step → Prop
  | .header span => span.Near size
  | .mark found => found.Sound size
  | .chained base marks length =>
    base.offset + (base.length + length) ≤ size + overhang ∧ ∀ mark ∈ marks, mark.Sound size
  | .framing type => type.isKnown = true
  | .payload .. | .remark _ => True

/-- An ending that is no fault, or is excused for it. -/
def Ending.Sound (size : Nat) : Ending → Prop
  | .stopped stop => stop.Excused size
  | _ => True

namespace Reading

/-- A reading of sound steps that ends well. -/
structure Sound (size : Nat) (reading : Reading) : Prop where
  /-- Each step is sound. -/
  steps : ∀ step ∈ reading.steps, step.Sound size
  /-- The ending is sound. -/
  ending : reading.ending.Sound size

/-- A reading without steps is sound if it ends well. -/
theorem Sound.ends {size : Nat} {ending : Ending} (h : ending.Sound size) :
    (Reading.ends ending).Sound size :=
  ⟨fun _ member => (List.not_mem_nil member).elim, h⟩

/-- A reading that finds nothing more to read is sound. -/
theorem sound_complete (size : Nat) : complete.Sound size :=
  .ends trivial

/-- A reading that stops at the end of the capture is sound. -/
theorem sound_truncated (size : Nat) : (stopped .truncated).Sound size :=
  .ends trivial

/-- Sound steps in front of a sound reading leave it sound. -/
theorem Sound.after {size : Nat} {steps : List Step} {rest : Reading}
    (front : ∀ step ∈ steps, step.Sound size) (h : rest.Sound size) :
    (Reading.after steps rest).Sound size := by
  refine ⟨fun step member => ?_, h.ending⟩
  rcases List.mem_append.mp member with early | late
  · exact front step early
  · exact h.steps step late

/-- A sound step in front of a sound reading leaves it sound. -/
theorem Sound.after_one {size : Nat} {step : Step} {rest : Reading} (first : step.Sound size)
    (h : rest.Sound size) : (Reading.after [step] rest).Sound size :=
  .after (fun _ member => List.mem_singleton.mp member ▸ first) h

/-- A reading that goes on with a guarded result is sound if what follows is. -/
theorem Sound.attempt {α : Type} {size : Nat} {result : Except Stop α} {Q : α → Prop}
    {next : α → Reading} (h : Guarded size result Q)
    (rest : ∀ value, Q value → (next value).Sound size) :
    (Reading.attempt result next).Sound size := by
  cases result with
  | error stop => exact .ends h
  | ok value => exact rest value h

end Reading

/-! ## Options and extension headers -/

/-- The length of an option is that of an octet. -/
theorem HeaderOption.guarded_length? (data : Octets) {offset : Nat} (kind : UInt8)
    (inside : offset < data.size) :
    Guarded data.size (length? data offset kind) fun told =>
      ∀ length, told = some length → length ≤ overhang := by
  have room : offset + 1 ≤ data.size + overhang := by omega
  unfold length?
  split
  · rintro length ⟨⟩
    decide
  · split
    · next stop fault => exact (guarded_advance room).excused fault
    · split
      · next told _ =>
        have bound := told.toNat_lt
        intro length told
        split at told
        · cases told
          rw [overhang]
          omega
        · cases told
      · rintro length ⟨⟩

/-- Options end within their header. -/
theorem HeaderOption.guarded_scan (data : Octets) {offset stop : Nat} (inside : stop ≤ data.size) :
    Guarded data.size (scan data offset stop) fun options =>
      ∀ option ∈ options, option.offset + option.length ≤ stop := by
  -- The scan leaves out an option that passes the end of the header.
  fun_induction scan data offset stop with
  | case1 | case3 | case5 | case8 => nofun
  | case2 offset before kind _ stopped fault =>
    exact (guarded_length? data kind (Nat.lt_of_lt_of_le before inside)).excused fault
  | case4 offset before kind _ length told stopped fault =>
    have bound := (guarded_length? data kind (Nat.lt_of_lt_of_le before inside)).value told
    have room : offset + length ≤ data.size + overhang := by
      have := bound length rfl
      omega
    exact (guarded_advance room).excused fault
  | case6 offset _ kind _ length _ next _ _ stopped fault ih => exact ih.excused fault
  | case7 offset _ kind _ length _ next sum inHeader rest found ih =>
    have others := ih.value found
    have sum := eq_add_of_advance sum
    intro option member
    rcases List.mem_cons.mp member with rfl | later
    · show offset + length ≤ stop
      omega
    · exact others option later

/-- The mark of a TCP option that is near is sound. -/
theorem HeaderOption.sound_tcpMark? {size : Nat} {option : HeaderOption} {mark : Mark}
    (near : option.offset + option.length ≤ size + overhang) (h : option.tcpMark? = some mark) :
    mark.Sound size := by
  obtain ⟨id, -, rfl⟩ := Option.map_eq_some_iff.mp h
  exact near

namespace Chain

/-- The marks of an extension header that starts within the octets are sound. -/
theorem sound_marksOf {data : Octets} {offset length : Nat} (type : IpProtocol)
    (form : ExtensionForm) (h : offset + length ≤ data.size + overhang) :
    ∀ mark ∈ marksOf data offset type form length, mark.Sound data.size := by
  unfold marksOf
  intro mark member
  split at member <;> split at member
  · cases List.mem_singleton.mp member
    trivial
  · cases member
  · cases List.mem_singleton.mp member
    exact h
  · cases member

/-- A chain does not end far behind the octets, and its marks are sound. -/
theorem guarded_follow (data : Octets) {start length : Nat} (next : IpProtocol) (isFirst : Bool)
    (h : start + length ≤ data.size + overhang) :
    Guarded data.size (follow data start next length isFirst) fun chain =>
      start + chain.length ≤ data.size + overhang ∧
        ∀ mark ∈ chain.marks, mark.Sound data.size := by
  -- A header of the chain starts within the capture, so its end is at most the overhang behind it.
  fun_induction follow data start next length isFirst with
  | case1 => exact ⟨h, nofun⟩
  | case2 next length isFirst form _ stop fault => exact (guarded_advance h).excused fault
  | case3 => exact ⟨h, nofun⟩
  | case4 next length isFirst form _ offset sum header read stop fault ih =>
    refine (ih ?_).excused fault
    have sum := eq_add_of_advance sum
    have inside := (ExtensionHeader.lt_size_of_read? read).1
    have bound := ExtensionHeader.length_le_of_read? read
    omega
  | case5 next length isFirst form _ offset sum header read rest found ih =>
    have sum := eq_add_of_advance sum
    have inside := (ExtensionHeader.lt_size_of_read? read).1
    have bound := ExtensionHeader.length_le_of_read? read
    obtain ⟨ends, marks⟩ := (ih (by omega)).value found
    refine ⟨ends, fun mark member => ?_⟩
    rcases List.mem_append.mp member with here | later
    · exact sound_marksOf next form (by omega) mark here
    · exact marks mark later

end Chain

/-! ## Levels -/

/-- The part of an ICMPv6 message that counts as its header is not empty. -/
theorem Icmpv6Type.pos_of_layout? {type : Icmpv6Type} {length : Nat}
    (h : type.layout? = some (.fixed length) ∨ type.layout? = some (.embedded length)) :
    0 < length := by
  unfold layout? at h
  split at h <;> rcases h with h | h <;> cases h <;> decide

namespace Reading

variable (data : Octets)

/-- A TCP header. -/
theorem sound_tcp (offset : Nat) : (tcp data offset).Sound data.size := by
  refine .attempt (TcpHeader.guarded_read data offset) fun header inside => ?_
  split
  · exact .after_one trivial (sound_complete _)
  · next long =>
    have pos : 0 < header.headerLength := by
      have size : TcpHeader.size = 20 := rfl
      omega
    refine .attempt (data.guarded_behind offset pos) fun payload ⟨sum, enough⟩ => ?_
    refine .attempt (HeaderOption.guarded_scan data (by omega)) fun options within => ?_
    refine .after ?_ (.ends trivial)
    intro step member
    rcases List.mem_cons.mp member with rfl | marked
    · exact Nat.le_add_right_of_le enough
    · obtain ⟨mark, found, rfl⟩ := List.mem_map.mp marked
      obtain ⟨option, listed, marked⟩ := List.mem_filterMap.mp found
      have ends := within option listed
      exact HeaderOption.sound_tcpMark? (by omega) marked

/-- A UDP header. -/
theorem sound_udp (offset : Nat) : (udp data offset).Sound data.size := by
  refine .attempt (Ports.guarded_read data offset (by decide)) fun ports inside => ?_
  have near : offset + udpSize ≤ data.size + overhang := by omega
  refine .attempt (guarded_advance near) fun payload _ => ?_
  exact .after_one near (.ends trivial)

/-- An SCTP header. -/
theorem sound_sctp (offset : Nat) : (sctp data offset).Sound data.size := by
  refine .attempt (data.guarded_require offset (by decide)) fun _ inside => ?_
  exact .after_one (Nat.le_add_right_of_le inside) (sound_complete _)

/-- An IPX header. -/
theorem sound_ipx (offset : Nat) : (ipx data offset).Sound data.size := by
  refine .attempt (data.guarded_require offset (by decide)) fun _ inside => ?_
  exact .after_one (Nat.le_add_right_of_le inside) (sound_complete _)

/-- An ICMPv4 header. -/
theorem sound_icmpv4 (offset : Nat) : (icmpv4 data offset).Sound data.size := by
  refine .attempt (data.guarded_require offset (by decide)) fun _ inside => ?_
  exact .after_one (Nat.le_add_right_of_le inside) (sound_complete _)

/-- An ICMPv6 message. -/
theorem sound_icmpv6 (offset : Nat) : (icmpv6 data offset).Sound data.size := by
  refine .attempt (IcmpHeader.guarded_read data offset) fun header _ => ?_
  dsimp only
  split
  · exact .after_one trivial (sound_complete _)
  · next length layout =>
    have pos := Icmpv6Type.pos_of_layout? (.inl layout)
    refine .attempt (data.guarded_require offset pos) fun _ inside => ?_
    exact .after_one (Nat.le_add_right_of_le inside) (sound_complete _)
  · next length layout =>
    have pos := Icmpv6Type.pos_of_layout? (.inr layout)
    refine .attempt (data.guarded_behind offset pos) fun quoted ⟨_, inside⟩ => ?_
    exact .after_one (Nat.le_add_right_of_le inside) (.ends trivial)

/-- A GRE header. -/
theorem sound_gre (offset : Nat) : (gre data offset).Sound data.size := by
  refine .attempt (GreHeader.guarded_read data offset) fun header _ => ?_
  have pos : 0 < header.headerLength := Nat.succ_pos _
  refine .attempt (data.guarded_behind offset pos) fun payload ⟨_, inside⟩ => ?_
  exact .after_one (Nat.le_add_right_of_le inside) (.ends trivial)

/-- The header behind an IP header. -/
theorem sound_ipPayload (offset : Nat) (protocol : IpProtocol) (parent : ProtocolId) :
    (ipPayload data offset protocol parent).Sound data.size := by
  refine .after_one trivial ?_
  split
  · exact sound_tcp data offset
  · exact sound_udp data offset
  · exact sound_icmpv4 data offset
  · exact sound_icmpv6 data offset
  · exact sound_gre data offset
  · exact sound_sctp data offset
  · exact sound_ipx data offset
  · exact .ends trivial
  · exact .ends trivial
  · exact sound_complete _
  · exact .ends trivial

/-- An IPv4 header. -/
theorem sound_ipv4 (offset : Nat) : (ipv4 data offset).Sound data.size := by
  refine .attempt (Ipv4Header.guarded_read data offset) fun header _ => ?_
  split
  · exact .after_one trivial (sound_complete _)
  · next long =>
    have pos : 0 < header.headerLength := by
      have size : Ipv4Header.size = 20 := rfl
      omega
    refine .attempt (data.guarded_behind offset pos) fun payload ⟨sum, inside⟩ => ?_
    refine .attempt (HeaderOption.guarded_scan data (by omega)) fun options within => ?_
    refine .after ?_ (.after ?_ ?_)
    · intro step member
      rcases List.mem_cons.mp member with rfl | marked
      · exact Nat.le_add_right_of_le inside
      · obtain ⟨option, listed, rfl⟩ := List.mem_map.mp marked
        have ends := within option listed
        show option.offset + option.length ≤ data.size + overhang
        omega
    · intro step member
      split at member
      · cases List.mem_singleton.mp member
        trivial
      · cases member
    · split
      · exact sound_complete _
      · exact sound_ipPayload data payload header.protocol .ipv4

/-- An IPv6 header. -/
theorem sound_ipv6 (offset : Nat) : (ipv6 data offset).Sound data.size := by
  refine .attempt (Ipv6Header.guarded_read data offset) fun header inside => ?_
  have near : offset + Ipv6Header.size ≤ data.size + overhang := Nat.le_add_right_of_le inside
  refine .attempt (guarded_advance near) fun start sum => ?_
  have chained : start + 0 ≤ data.size + overhang := by omega
  have followed := Chain.guarded_follow data header.nextHeader true chained
  refine .attempt followed fun chain ⟨ends, marks⟩ => ?_
  refine .attempt (guarded_advance ends) fun payload _ => ?_
  refine .after_one ⟨?_, marks⟩ ?_
  · show offset + (Ipv6Header.size + chain.length) ≤ data.size + overhang
    omega
  · split
    · exact sound_truncated _
    · split
      · exact sound_complete _
      · exact sound_ipPayload data payload chain.next .ipv6

/-- An IP header of either version. -/
theorem sound_ip (offset : Nat) : (ip data offset).Sound data.size := by
  unfold ip
  split
  · exact sound_truncated _
  · split
    · exact sound_ipv4 data offset
    · exact sound_ipv6 data offset
    · exact .after_one trivial (sound_complete _)

/-- An ARP packet. -/
theorem sound_arp (offset : Nat) : (arp data offset).Sound data.size := by
  refine .attempt (ArpHeader.guarded_read data offset) fun header inside => ?_
  have length := header.packetLength_le
  refine .after_one ?_ (sound_complete _)
  show offset + header.packetLength ≤ data.size + overhang
  omega

/-- The payload of a link layer or GRE header. -/
theorem sound_etherType (type : EtherType) (offset : Nat) :
    (etherType type data offset).Sound data.size := by
  unfold etherType
  split
  · exact sound_ipv4 data offset
  · exact sound_ipv6 data offset
  · exact sound_arp data offset
  · exact sound_arp data offset
  · exact sound_ipx data offset
  · exact .ends trivial
  · exact .ends trivial

/-- A SNAP header behind an LLC header. -/
theorem sound_snap {offset : Nat} (inside : offset ≤ data.size) :
    (snap data offset).Sound data.size := by
  have typeAt : offset + snapTypeAt ≤ data.size + overhang := Nat.add_le_add inside (by decide)
  have near : offset + snapSize ≤ data.size + overhang := Nat.add_le_add inside (by decide)
  refine .attempt (guarded_advance typeAt) fun typeAt _ => ?_
  refine .attempt (guarded_advance near) fun payload _ => ?_
  split
  · exact sound_truncated _
  · next type found =>
    refine .after ?_ (sound_etherType data (.ofValue type) payload)
    intro step member
    rcases List.mem_cons.mp member with rfl | header
    · rfl
    · cases List.mem_singleton.mp header
      exact near

/-- What follows the Ethernet header of an 802.3 frame. -/
theorem sound_ieee8023 (offset : Nat) (header : EthernetHeader) :
    (ieee8023 data offset header).Sound data.size := by
  unfold ieee8023
  split
  · exact .after_one rfl (sound_ipx data offset)
  · refine .attempt (data.guarded_behind offset (by decide)) fun behind ⟨sum, inside⟩ => ?_
    split
    · exact sound_truncated _
    · refine .after ?_ ?_
      · intro step member
        rcases List.mem_cons.mp member with rfl | header
        · rfl
        · cases List.mem_singleton.mp header
          exact Nat.le_add_right_of_le inside
      · split
        · exact sound_snap data (by omega)
        · split
          · exact sound_ipx data behind
          · exact sound_complete _

/-- An Ethernet frame. -/
theorem sound_ethernet (offset : Nat) : (ethernet data offset).Sound data.size := by
  refine .attempt (EthernetHeader.guarded_read data offset) fun header inside => ?_
  split
  · have near : offset + EthernetHeader.size ≤ data.size + overhang := Nat.le_add_right_of_le inside
    refine .attempt (guarded_advance near) fun behind _ => ?_
    exact .after_one near (sound_ieee8023 data behind header)
  · refine .attempt (TaggedType.guarded_unwrap data _ inside) fun tagged ends => ?_
    have near : offset + tagged.length ≤ data.size + overhang := Nat.le_add_right_of_le ends
    refine .after_one near ?_
    split
    · exact .attempt (guarded_advance near) fun payload _ =>
        sound_etherType data tagged.etherType payload
    · exact sound_truncated _

/-- Whatever the octets and wherever a level starts, its reading is sound. -/
theorem sound_read (entry : Entry) (offset : Nat) : (read entry data offset).Sound data.size := by
  cases entry with
  | ethernet => exact sound_ethernet data offset
  | etherType type => exact sound_etherType data type offset
  | ip => exact sound_ip data offset
  | ipv4 => exact sound_ipv4 data offset
  | ipv6 => exact sound_ipv6 data offset

end Reading

end FrameSpans
