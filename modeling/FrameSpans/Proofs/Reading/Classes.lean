import FrameSpans.Proofs.Reading.Placement

/-!
# Classes of what is found

Whether a span is subject to the recording policy is decided by the step that finds it: headers are
recorded always, marks if the policy asks for it. It can be told from the class of its id as well:
headers are of the class `protocol`, and no mark is (`Reading.classed_read`).
-/

namespace FrameSpans

/-- An option or extension header is not of the class of headers. -/
def Mark.Classed : Mark → Prop
  | .option span => span.id.kind ≠ .protocol
  | .fragment _ => True

/-- A header is of the class of headers, and the marks of a step are not. -/
def Step.Classed : Step → Prop
  | .header span => span.id.kind = .protocol
  | .mark found => found.Classed
  | .chained base marks _ => base.id.kind = .protocol ∧ ∀ mark ∈ marks, mark.Classed
  | .framing _ | .payload .. | .remark _ => True

/-! ## Marks -/

/-- An IPv4 option is not of the class of headers. -/
theorem HeaderOption.classed_ipv4Mark (option : HeaderOption) : option.ipv4Mark.Classed :=
  nofun

/-- A TCP option is not of the class of headers. -/
theorem HeaderOption.classed_tcpMark? {option : HeaderOption} {mark : Mark}
    (h : option.tcpMark? = some mark) : mark.Classed := by
  obtain ⟨id, found, rfl⟩ := Option.map_eq_some_iff.mp h
  unfold ProtocolId.tcpOption? at found
  split at found <;> cases found <;> nofun

namespace Chain

/-- What an extension header leaves is not of the class of headers. -/
theorem classed_marksOf (data : Octets) (offset : Nat) (type : IpProtocol) (form : ExtensionForm)
    (length : Nat) : ∀ mark ∈ marksOf data offset type form length, mark.Classed := by
  unfold marksOf
  intro mark member
  split at member <;> split at member
  · cases List.mem_singleton.mp member
    trivial
  · cases member
  · next id found =>
    cases List.mem_singleton.mp member
    show id.kind ≠ .protocol
    unfold ProtocolId.ipv6Extension? at found
    split at found <;> cases found <;> nofun
  · cases member

/-- What is found in a chain is not of the class of headers. -/
theorem classed_follow {data : Octets} {start length : Nat} {next : IpProtocol} {isFirst : Bool}
    {chain : Chain} (found : follow data start next length isFirst = .ok chain) :
    ∀ mark ∈ chain.marks, mark.Classed := by
  fun_induction follow data start next length isFirst generalizing chain with
  | case1 | case3 =>
    cases found
    exact List.forall_mem_nil _
  | case2 | case4 => cases found
  | case5 next length isFirst form _ offset sum header read rest followed ih =>
    cases found
    intro mark member
    rcases List.mem_append.mp member with here | later
    · exact classed_marksOf data offset next form header.length mark here
    · exact ih followed mark later

end Chain

/-! ## Levels -/

namespace Reading

/-- A reading whose headers are of the class of headers, and whose marks are not. -/
def Classed (reading : Reading) : Prop :=
  ∀ step ∈ reading.steps, step.Classed

/-- A reading without steps. -/
@[simp] theorem classed_ends (ending : Ending) : (ends ending).Classed :=
  nofun

/-- A reading that finds nothing more to read. -/
@[simp] theorem classed_complete : complete.Classed :=
  nofun

/-- A reading that stops. -/
@[simp] theorem classed_stopped (stop : Stop) : (stopped stop).Classed :=
  nofun

/-- Steps in front of a reading. -/
@[simp] theorem classed_after (steps : List Step) (rest : Reading) :
    (after steps rest).Classed ↔ (∀ step ∈ steps, step.Classed) ∧ rest.Classed :=
  List.forall_mem_append

/-- A reading that goes on with a result. -/
@[simp] theorem classed_attempt {α : Type} (result : Except Stop α) (next : α → Reading) :
    (attempt result next).Classed ↔ ∀ value, result = .ok value → (next value).Classed := by
  cases result with
  | error stop => simp
  | ok value => simp

/-- A header in front of a reading. -/
theorem Classed.after_header {span : Span} {rest : Reading} (header : span.id.kind = .protocol)
    (behind : rest.Classed) : (after [.header span] rest).Classed :=
  List.forall_mem_cons.mpr ⟨header, behind⟩

/-- The framing, and a header, in front of a reading. -/
theorem Classed.after_framed {type : L2Type} {span : Span} {rest : Reading}
    (header : span.id.kind = .protocol) (behind : rest.Classed) :
    (after [.framing type, .header span] rest).Classed :=
  List.forall_mem_cons.mpr ⟨trivial, Classed.after_header header behind⟩

/-- A remark is all that is left of a header. -/
theorem classed_remark (remark : Remark) : (after [.remark remark] complete).Classed :=
  List.forall_mem_cons.mpr ⟨trivial, classed_complete⟩

variable (data : Octets) (offset : Nat)

/-- A TCP header. -/
theorem classed_tcp : (tcp data offset).Classed := by
  rw [tcp, classed_attempt]
  intro header _
  split
  · exact classed_remark _
  · simp only [classed_attempt, classed_after, classed_ends, and_true]
    intro payload _ options _ step member
    rcases List.mem_cons.mp member with rfl | marked
    · rfl
    · obtain ⟨mark, found, rfl⟩ := List.mem_map.mp marked
      obtain ⟨option, -, marked⟩ := List.mem_filterMap.mp found
      exact HeaderOption.classed_tcpMark? marked

/-- A UDP header. -/
theorem classed_udp : (udp data offset).Classed := by
  simp only [udp, classed_attempt]
  intro ports _ payload _
  exact .after_header rfl (classed_ends _)

/-- An SCTP common header. -/
theorem classed_sctp : (sctp data offset).Classed := by
  rw [sctp, classed_attempt]
  intro _ _
  exact .after_header rfl classed_complete

/-- An IPX header. -/
theorem classed_ipx : (ipx data offset).Classed := by
  rw [ipx, classed_attempt]
  intro _ _
  exact .after_header rfl classed_complete

/-- An ICMPv4 header. -/
theorem classed_icmpv4 : (icmpv4 data offset).Classed := by
  rw [icmpv4, classed_attempt]
  intro _ _
  exact .after_header rfl classed_complete

/-- An ICMPv6 message. -/
theorem classed_icmpv6 : (icmpv6 data offset).Classed := by
  rw [icmpv6, classed_attempt]
  intro header _
  dsimp only
  split
  · exact classed_remark _
  · rw [classed_attempt]
    intro _ _
    exact .after_header rfl classed_complete
  · rw [classed_attempt]
    intro quoted _
    exact .after_header rfl (classed_ends _)

/-- A GRE header. -/
theorem classed_gre : (gre data offset).Classed := by
  simp only [gre, classed_attempt]
  intro header _ payload _
  exact .after_header rfl (classed_ends _)

/-- The header behind an IP header. -/
theorem classed_ipPayload (protocol : IpProtocol) (parent : ProtocolId) :
    (ipPayload data offset protocol parent).Classed := by
  unfold ipPayload
  rw [classed_after]
  refine ⟨List.forall_mem_singleton.mpr trivial, ?_⟩
  cases protocol with
  | tcp => exact classed_tcp data offset
  | udp => exact classed_udp data offset
  | icmp => exact classed_icmpv4 data offset
  | icmpv6 => exact classed_icmpv6 data offset
  | gre => exact classed_gre data offset
  | sctp => exact classed_sctp data offset
  | ipxInIp => exact classed_ipx data offset
  | _ => exact classed_ends _

/-- An IPv4 header. -/
theorem classed_ipv4 : (ipv4 data offset).Classed := by
  rw [ipv4, classed_attempt]
  intro header _
  split
  · exact classed_remark _
  · simp only [classed_attempt, classed_after]
    intro payload _ options _
    refine ⟨?_, ?_, ?_⟩
    · intro step member
      rcases List.mem_cons.mp member with rfl | marked
      · rfl
      · obtain ⟨option, -, rfl⟩ := List.mem_map.mp marked
        exact option.classed_ipv4Mark
    · split
      · exact List.forall_mem_singleton.mpr trivial
      · exact nofun
    · split
      · exact classed_complete
      · exact classed_ipPayload data payload header.protocol .ipv4

/-- An IPv6 header. -/
theorem classed_ipv6 : (ipv6 data offset).Classed := by
  simp only [ipv6, classed_attempt, classed_after]
  intro header _ start _ chain found payload _
  refine ⟨List.forall_mem_singleton.mpr ⟨rfl, Chain.classed_follow found⟩, ?_⟩
  split
  · exact classed_stopped _
  · split
    · exact classed_complete
    · exact classed_ipPayload data payload chain.next .ipv6

/-- An IP header of either version. -/
theorem classed_ip : (ip data offset).Classed := by
  unfold ip
  split
  · exact classed_stopped _
  · split
    · exact classed_ipv4 data offset
    · exact classed_ipv6 data offset
    · exact classed_remark _

/-- An ARP packet. -/
theorem classed_arp : (arp data offset).Classed := by
  rw [arp, classed_attempt]
  intro header _
  exact .after_header rfl classed_complete

/-- The payload of a link layer or GRE header. -/
theorem classed_etherType (type : EtherType) : (etherType type data offset).Classed := by
  cases type with
  | ipv4 => exact classed_ipv4 data offset
  | ipv6 => exact classed_ipv6 data offset
  | arp | rarp => exact classed_arp data offset
  | ipx => exact classed_ipx data offset
  | _ => exact classed_ends _

/-- A SNAP header. -/
theorem classed_snap : (snap data offset).Classed := by
  simp only [snap, classed_attempt]
  intro typeAt _ payload _
  split
  · exact classed_stopped _
  · exact .after_framed rfl (classed_etherType data payload _)

/-- What follows the Ethernet header of an 802.3 frame. -/
theorem classed_ieee8023 (header : EthernetHeader) : (ieee8023 data offset header).Classed := by
  unfold ieee8023
  split
  · exact List.forall_mem_cons.mpr ⟨trivial, classed_ipx data offset⟩
  · rw [classed_attempt]
    intro behind _
    split
    · exact classed_stopped _
    · refine .after_framed rfl ?_
      split
      · exact classed_snap data behind
      · split
        · exact classed_ipx data behind
        · exact classed_complete

/-- An Ethernet frame. -/
theorem classed_ethernet : (ethernet data offset).Classed := by
  rw [ethernet, classed_attempt]
  intro header _
  split
  · rw [classed_attempt]
    intro behind _
    exact .after_header rfl (classed_ieee8023 data behind header)
  · rw [classed_attempt]
    intro tagged _
    refine .after_header rfl ?_
    split
    · rw [classed_attempt]
      intro payload _
      exact classed_etherType data payload _
    · exact classed_stopped _

/-- Wherever a level starts, its headers are of the class of headers, and its marks are not. -/
theorem classed_read (entry : Entry) : (read entry data offset).Classed := by
  cases entry with
  | ethernet => exact classed_ethernet data offset
  | etherType type => exact classed_etherType data offset type
  | ip => exact classed_ip data offset
  | ipv4 => exact classed_ipv4 data offset
  | ipv6 => exact classed_ipv6 data offset

end Reading

end FrameSpans
