import FrameSpans.Proofs.Reading.Framing
import FrameSpans.Proofs.Reading.Succession

/-!
# How long headers are

A header has a fixed length or tells it in a field of a few bits, and so do options and extension
headers. None of them is longer than `overhang`, the length of the longest extension header. Two
headers are sums, which no field bounds: an Ethernet header has four octets for each of its tags
(`Span.WithTags`), and an IPv6 header includes the chain of its extension headers
(`Span.WithChain`). What such a sum is made of is told from the octets alone.

Wherever a level starts, its reading offers no other spans (`Reading.sized_read`). What a reading
offers are the spans of its headers and marks, and that of a header with its chain
(`Step.Offers`).
-/

namespace FrameSpans

/-! ## Long spans -/

namespace Span

/-- A span of at least one octet, and of no more than the longest extension header has. -/
def Short (span : Span) : Prop :=
  0 < span.length ∧ span.length ≤ overhang

variable (data : Octets) (span : Span)

/-- An Ethernet header with tags: each type field but the last one announces a tag. -/
def WithTags : Prop :=
  span.id = .ethernet ∧ ∃ tags,
    span.length = EthernetHeader.size + 4 * tags ∧
    ∀ tag < tags, ∃ type, data.word16? (span.offset + 12 + 4 * tag) = some type ∧
      (EtherType.ofValue type).isTag = true

/-- An IPv6 header with its extension headers: their chain leads to the end of the span. -/
def WithChain : Prop :=
  span.id = .ipv6 ∧ ∃ first last, data.octet? (span.offset + 6) = some first ∧
    Chain.Visits data (span.offset + Ipv6Header.size) (.ofValue first)
      (span.offset + span.length) last

/-- A header whose length is a sum. -/
def Summed : Prop :=
  span.WithTags data ∨ span.WithChain data

/-- A span that is short, or that of a header whose length is a sum. -/
def Sized : Prop :=
  span.Short ∨ span.Summed data

end Span

/-! ## Spans that are offered -/

/-- The span of an option, if the mark is one, has a property. -/
def Mark.Offers (P : Span → Prop) : Mark → Prop
  | .option span => P span
  | .fragment _ => True

/-- All spans that a step offers have a property. The span of a header with its chain is offered
behind the marks of the chain, unless the chain is empty. -/
def Step.Offers (P : Span → Prop) : Step → Prop
  | .header span => P span
  | .mark found => found.Offers P
  | .chained base marks length =>
    P base ∧ (∀ mark ∈ marks, mark.Offers P) ∧
      (length ≠ 0 → P { base with length := base.length + length })
  | .framing _ | .payload .. | .remark _ => True

/-! ## Lengths that headers tell -/

section Lengths

variable {data : Octets} {offset : Nat}

/-- A TCP header tells its length in four bits. -/
theorem TcpHeader.headerLength_le_of_read {header : TcpHeader} (h : read data offset = .ok header) :
    header.headerLength ≤ overhang := by
  obtain ⟨ports, _, h⟩ := ok_of_bind h
  obtain ⟨words, _, h⟩ := ok_of_bind h
  cases h
  have bound := (words >>> 4).toNat_lt
  show (words >>> 4).toNat * 4 ≤ 2048
  omega

/-- An IPv4 header tells its length in four bits. -/
theorem Ipv4Header.headerLength_le_of_read {header : Ipv4Header}
    (h : read data offset = .ok header) : header.headerLength ≤ overhang := by
  obtain ⟨_, _, h⟩ := ok_of_bind h
  obtain ⟨first, _, h⟩ := ok_of_bind h
  obtain ⟨totalLength, _, h⟩ := ok_of_bind h
  obtain ⟨flags, _, h⟩ := ok_of_bind h
  obtain ⟨protocol, _, h⟩ := ok_of_bind h
  cases h
  have bound := (first &&& 0x0f).toNat_lt
  show (first &&& 0x0f).toNat * 4 ≤ 2048
  omega

/-- A GRE header has at most three optional fields. -/
theorem GreHeader.headerLength_le (header : GreHeader) : header.headerLength ≤ overhang := by
  have fields : (fieldFlags.filter fun flag => header.flags &&& flag != 0).length ≤ 3 :=
    List.length_filter_le ..
  unfold headerLength lengthOf size overhang
  omega

/-- The part of an ICMPv6 message that counts as its header is short. -/
theorem Icmpv6Type.le_of_layout? {type : Icmpv6Type} {length : Nat}
    (h : type.layout? = some (.fixed length) ∨ type.layout? = some (.embedded length)) :
    length ≤ overhang := by
  unfold layout? at h
  split at h <;> rcases h with h | h <;> cases h <;> decide

/-- An extension header other than a fragment header tells its length in its second octet. -/
theorem ExtensionHeader.read?_units8 {next units : UInt8} (first : data.octet? offset = some next)
    (second : data.octet? (offset + 1) = some units) :
    read? data offset .units8 = some ⟨.ofValue next, units.toNat * 8 + 8⟩ := by
  rw [read?, first, second]

/-- An option that was listed tells its length in an octet, and is not empty. -/
theorem HeaderOption.short_of_scan {stop : Nat} {options : List HeaderOption}
    (inside : stop ≤ data.size) (found : scan data offset stop = .ok options) :
    ∀ option ∈ options, 0 < option.length ∧ option.length ≤ overhang := by
  -- Each option that is listed was told before the scan goes on behind it.
  fun_induction scan data offset stop generalizing options with
  | case1 | case3 | case5 | case8 =>
    cases found
    exact List.forall_mem_nil _
  | case2 | case4 | case6 => cases found
  | case7 offset before kind _ length told next sum inHeader rest others ih =>
    cases found
    have bound := (guarded_length? data kind (Nat.lt_of_lt_of_le before inside)).value told
    exact List.forall_mem_cons.mpr ⟨⟨pos_of_length? told, bound length rfl⟩, ih others⟩

end Lengths

/-! ## Lengths that are sums -/

/-- Behind the tags of an Ethernet header its length is that of the header and of so many tags, each
of which is announced by the type field in front of it. -/
theorem TaggedType.tags_of_unwrap {data : Octets} {offset length : Nat} {type : EtherType}
    {value : UInt16} (told : type = .ofValue value)
    (field : data.word16? (offset + length - 2) = some value) (long : 2 ≤ length)
    {tagged : TaggedType} (found : unwrap data offset length type = .ok tagged) :
    ∃ tags, tagged.length = length + 4 * tags ∧
      ∀ tag < tags, ∃ type,
        data.word16? (offset + length - 2 + 4 * tag) = some type ∧
          (EtherType.ofValue type).isTag = true := by
  have size : EthernetHeader.tagSize = 4 := rfl
  -- The tag that is followed is the first one, and the others are those behind it.
  fun_induction unwrap data offset length type generalizing value with
  | case1 => cases found
  | case2 length etherType announced inner sum next captured ih =>
    obtain rfl := eq_add_of_advance sum
    have behind : offset + (length + EthernetHeader.tagSize) - 2 = offset + (length + 2) := by
      omega
    obtain ⟨tags, sum, fields⟩ := ih rfl (by rw [behind, captured]) (by omega) found
    refine ⟨tags + 1, by omega, fun tag before => ?_⟩
    cases tag with
    | zero => exact ⟨value, field, told ▸ announced⟩
    | succ tag =>
      have place : offset + length - 2 + 4 * (tag + 1) =
          offset + (length + EthernetHeader.tagSize) - 2 + 4 * tag := by
        omega
      rw [place]
      exact fields tag (by omega)
  | case3 | case4 =>
    cases found
    exact ⟨0, rfl, fun tag before => absurd before (Nat.not_lt_zero tag)⟩

namespace Chain

variable {data : Octets} {start length : Nat} {next : IpProtocol} {isFirst : Bool} {chain : Chain}

/-- A chain leads to no header in front of it. -/
theorem Visits.le {position target : Nat} {type wanted : IpProtocol}
    (h : Visits data position type target wanted) : position ≤ target := by
  induction h with
  | here => exact Nat.le_refl _
  | behind extension read rest ih => exact Nat.le_of_add_right_le ih

/-- A chain that was followed leads to what follows it. -/
theorem visits_of_follow (found : follow data start next length isFirst = .ok chain) :
    Visits data (start + length) next (start + chain.length) chain.next := by
  fun_induction follow data start next length isFirst generalizing chain with
  | case1 | case3 =>
    cases found
    exact .here _ _
  | case2 | case4 => cases found
  | case5 next length isFirst form extension offset sum header read rest followed ih =>
    cases found
    obtain rfl := eq_add_of_advance sum
    have behind := ih followed
    rw [← Nat.add_assoc] at behind
    exact .behind extension read behind

/-- Where a chain leads to the end of its extension headers, it is followed to there. -/
theorem follow_of_visits {position target : Nat} {type wanted : IpProtocol}
    (h : Visits data position type target wanted) (here : position = start + length)
    (isFirst : Bool) (room : target < offsetBound) (ends : Ends data target wanted) :
    ∃ chain, follow data start type length isFirst = .ok chain ∧ start + chain.length = target := by
  induction h generalizing length isFirst with
  | here position type =>
    subst here
    exact ⟨_, follow_of_ends isFirst room ends, rfl⟩
  | @behind position target type wanted form header extension read rest ih =>
    subst here
    have before : start + length < offsetBound := by
      have behind := rest.le
      omega
    obtain ⟨chain, followed, last⟩ := ih (Nat.add_assoc _ _ _)
      (isFirstBehind data (start + length) form isFirst) room ends
    rw [follow_of_read isFirst extension before read, followed]
    exact ⟨_, rfl, last⟩

/-- An extension header leaves no span but its own. -/
theorem offers_marksOf {P : Span → Prop} (offset : Nat) (type : IpProtocol) (form : ExtensionForm)
    (h : ∀ id, P ⟨id, offset, length⟩) :
    ∀ mark ∈ marksOf data offset type form length, mark.Offers P := by
  unfold marksOf
  intro mark member
  split at member <;> split at member
  · cases List.mem_singleton.mp member
    trivial
  · cases member
  · cases List.mem_singleton.mp member
    exact h _
  · cases member

/-- The marks of a chain are those of short extension headers. -/
theorem offers_of_follow (found : follow data start next length isFirst = .ok chain) :
    ∀ mark ∈ chain.marks, mark.Offers (Span.Sized data) := by
  fun_induction follow data start next length isFirst generalizing chain with
  | case1 | case3 =>
    cases found
    exact List.forall_mem_nil _
  | case2 | case4 => cases found
  | case5 next length isFirst form extension offset sum header read rest followed ih =>
    cases found
    have pos := (ExtensionHeader.lt_size_of_read? read).2
    have bound := ExtensionHeader.length_le_of_read? read
    exact List.forall_mem_append.mpr
      ⟨offers_marksOf offset next form fun _ => .inl ⟨pos, bound⟩, ih followed⟩

end Chain

/-- A span that is short or a sum is not empty. -/
theorem Span.Sized.pos {data : Octets} {span : Span} (h : span.Sized data) : 0 < span.length := by
  rcases h with ⟨pos, -⟩ | ⟨-, tags, sum, -⟩ | ⟨-, first, last, -, chain⟩
  · exact pos
  · have size : EthernetHeader.size = 14 := rfl
    omega
  · have size : Ipv6Header.size = 40 := rfl
    have behind := chain.le
    omega

/-! ## Readings -/

namespace Reading

variable (data : Octets) (offset : Nat)

/-- A header of fixed length, behind which nothing is read. -/
theorem sized_fixed (id : ProtocolId) {length : Nat} (pos : 0 < length)
    (bound : length ≤ overhang) :
    (attempt (data.require offset length) fun _ =>
      after [.header ⟨id, offset, length⟩] complete).Only (Step.Offers (Span.Sized data)) := by
  rw [only_attempt]
  intro _ _
  exact .after_one (.inl ⟨pos, bound⟩) only_complete

/-- A TCP header and its options. -/
theorem sized_tcp : (tcp data offset).Only (Step.Offers (Span.Sized data)) := by
  rw [tcp, only_attempt]
  intro header read
  split
  · exact .after_one trivial only_complete
  · next long =>
    have pos : 0 < header.headerLength := by
      have size : TcpHeader.size = 20 := rfl
      omega
    simp only [only_attempt, only_after, only_ends, and_true]
    intro payload passed options scanned
    obtain ⟨rfl, inside⟩ := (data.guarded_behind offset pos).value passed
    have short := HeaderOption.short_of_scan inside scanned
    refine List.forall_mem_cons.mpr ⟨.inl ⟨pos, TcpHeader.headerLength_le_of_read read⟩, ?_⟩
    intro step marked
    obtain ⟨mark, found, rfl⟩ := List.mem_map.mp marked
    obtain ⟨option, listed, told⟩ := List.mem_filterMap.mp found
    obtain ⟨id, -, rfl⟩ := Option.map_eq_some_iff.mp told
    exact .inl (short option listed)

/-- A UDP header. -/
theorem sized_udp : (udp data offset).Only (Step.Offers (Span.Sized data)) := by
  simp only [udp, only_attempt]
  intro ports _ payload _
  have short : 0 < udpSize ∧ udpSize ≤ overhang := by decide
  exact .after_one (.inl short) (only_ends _)

/-- An ICMPv6 message. -/
theorem sized_icmpv6 : (icmpv6 data offset).Only (Step.Offers (Span.Sized data)) := by
  rw [icmpv6, only_attempt]
  intro header _
  dsimp only
  split
  · exact .after_one trivial only_complete
  · next length layout =>
    exact sized_fixed data offset .icmpv6 (Icmpv6Type.pos_of_layout? (.inl layout))
      (Icmpv6Type.le_of_layout? (.inl layout))
  · next length layout =>
    rw [only_attempt]
    intro quoted _
    have pos := Icmpv6Type.pos_of_layout? (.inr layout)
    exact .after_one (.inl ⟨pos, Icmpv6Type.le_of_layout? (.inr layout)⟩) (only_ends _)

/-- A GRE header. -/
theorem sized_gre : (gre data offset).Only (Step.Offers (Span.Sized data)) := by
  simp only [gre, only_attempt]
  intro header _ payload _
  exact .after_one (.inl ⟨Nat.succ_pos _, header.headerLength_le⟩) (only_ends _)

/-- The header behind an IP header. -/
theorem sized_ipPayload (protocol : IpProtocol) (parent : ProtocolId) :
    (ipPayload data offset protocol parent).Only (Step.Offers (Span.Sized data)) := by
  refine .after_one trivial ?_
  cases protocol with
  | tcp => exact sized_tcp data offset
  | udp => exact sized_udp data offset
  | icmp => exact sized_fixed data offset .icmpv4 (by decide) (by decide)
  | icmpv6 => exact sized_icmpv6 data offset
  | gre => exact sized_gre data offset
  | sctp => exact sized_fixed data offset .sctp (by decide) (by decide)
  | ipxInIp => exact sized_fixed data offset .ipx (by decide) (by decide)
  | _ => exact only_ends _

/-- An IPv4 header and its options. -/
theorem sized_ipv4 : (ipv4 data offset).Only (Step.Offers (Span.Sized data)) := by
  rw [ipv4, only_attempt]
  intro header read
  split
  · exact .after_one trivial only_complete
  · next long =>
    have pos : 0 < header.headerLength := by
      have size : Ipv4Header.size = 20 := rfl
      omega
    simp only [only_attempt, only_after]
    intro payload passed options scanned
    obtain ⟨rfl, inside⟩ := (data.guarded_behind offset pos).value passed
    have short := HeaderOption.short_of_scan inside scanned
    refine ⟨?_, ?_, ?_⟩
    · refine List.forall_mem_cons.mpr ⟨.inl ⟨pos, Ipv4Header.headerLength_le_of_read read⟩, ?_⟩
      intro step marked
      obtain ⟨option, listed, rfl⟩ := List.mem_map.mp marked
      exact .inl (short option listed)
    · split
      · exact List.forall_mem_singleton.mpr trivial
      · exact List.forall_mem_nil _
    · split
      · exact only_complete
      · exact sized_ipPayload data _ header.protocol .ipv4

/-- An IPv6 header, and the sum of it and its extension headers. -/
theorem sized_ipv6 : (ipv6 data offset).Only (Step.Offers (Span.Sized data)) := by
  simp only [ipv6, only_attempt]
  intro header read start sum chain found payload _
  obtain rfl := eq_add_of_advance sum
  obtain ⟨first, octet, told⟩ := Ipv6Header.fields_of_read read
  have visits := Chain.visits_of_follow found
  rw [Nat.add_zero, told, Nat.add_assoc] at visits
  have whole : Span.Sized data ⟨.ipv6, offset, Ipv6Header.size + chain.length⟩ :=
    .inr (.inr ⟨rfl, first, chain.next, octet, visits⟩)
  have fixed : 0 < Ipv6Header.size ∧ Ipv6Header.size ≤ overhang := by decide
  refine .after_one ⟨.inl fixed, Chain.offers_of_follow found, fun _ => whole⟩ ?_
  split
  · exact only_stopped _
  · split
    · exact only_complete
    · exact sized_ipPayload data payload chain.next .ipv6

/-- An IP header of either version. -/
theorem sized_ip : (ip data offset).Only (Step.Offers (Span.Sized data)) := by
  unfold ip
  split
  · exact only_stopped _
  · split
    · exact sized_ipv4 data offset
    · exact sized_ipv6 data offset
    · exact .after_one trivial only_complete

/-- An ARP packet. -/
theorem sized_arp : (arp data offset).Only (Step.Offers (Span.Sized data)) := by
  rw [arp, only_attempt]
  intro header _
  have pos : 0 < header.packetLength := Nat.add_pos_left (by decide) _
  exact .after_one (.inl ⟨pos, header.packetLength_le⟩) only_complete

/-- The payload of a link layer or GRE header. -/
theorem sized_etherType (type : EtherType) :
    (etherType type data offset).Only (Step.Offers (Span.Sized data)) := by
  cases type with
  | ipv4 => exact sized_ipv4 data offset
  | ipv6 => exact sized_ipv6 data offset
  | arp | rarp => exact sized_arp data offset
  | ipx => exact sized_fixed data offset .ipx (by decide) (by decide)
  | _ => exact only_ends _

/-- A SNAP header, and the payload of the type that it tells. -/
theorem sized_snap : (snap data offset).Only (Step.Offers (Span.Sized data)) := by
  simp only [snap, only_attempt]
  intro typeAt _ payload _
  split
  · exact only_stopped _
  · next type _ =>
    have fixed : 0 < snapSize ∧ snapSize ≤ overhang := by decide
    exact .after_one trivial (.after_one (.inl fixed) (sized_etherType data payload _))

/-- What follows the Ethernet header of an 802.3 frame. -/
theorem sized_ieee8023 (header : EthernetHeader) :
    (ieee8023 data offset header).Only (Step.Offers (Span.Sized data)) := by
  have ipx (offset : Nat) : (ipx data offset).Only (Step.Offers (Span.Sized data)) :=
    sized_fixed data offset .ipx (by decide) (by decide)
  unfold ieee8023
  split
  · exact .after_one trivial (ipx offset)
  · rw [only_attempt]
    intro behind _
    split
    · exact only_stopped _
    · have fixed : 0 < llcSize ∧ llcSize ≤ overhang := by decide
      refine .after_one trivial (.after_one (.inl fixed) ?_)
      split
      · exact sized_snap data behind
      · split
        · exact ipx behind
        · exact only_complete

/-- An Ethernet header, the sum of it and its tags if there are any, and what follows it. -/
theorem sized_ethernet : (ethernet data offset).Only (Step.Offers (Span.Sized data)) := by
  rw [ethernet, only_attempt]
  intro header read
  split
  · rw [only_attempt]
    intro behind _
    have fixed : 0 < EthernetHeader.size ∧ EthernetHeader.size ≤ overhang := by decide
    exact .after_one (.inl fixed) (sized_ieee8023 data behind header)
  · rw [only_attempt]
    intro tagged found
    have field : data.word16? (offset + EthernetHeader.size - 2) = some header.typeOrLength :=
      (EthernetHeader.fields_of_read read).1
    obtain ⟨tags, sum, fields⟩ := TaggedType.tags_of_unwrap rfl field (by decide) found
    refine .after_one (.inr (.inl ⟨rfl, tags, sum, fields⟩)) ?_
    split
    · rw [only_attempt]
      intro payload _
      exact sized_etherType data payload tagged.etherType
    · exact only_stopped _

/-- Wherever a level starts, it offers short spans and those of headers whose lengths are sums. -/
theorem sized_read (entry : Entry) :
    (read entry data offset).Only (Step.Offers (Span.Sized data)) := by
  cases entry with
  | ethernet => exact sized_ethernet data offset
  | etherType type => exact sized_etherType data offset type
  | ip => exact sized_ip data offset
  | ipv4 => exact sized_ipv4 data offset
  | ipv6 => exact sized_ipv6 data offset

end Reading

end FrameSpans
