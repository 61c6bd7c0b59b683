import FrameSpans.Proofs.Reading.Chain
import FrameSpans.Proofs.Reading.Level

/-!
# Each header selects the next one

A header says what follows it: by an ethertype, by a protocol number, by service access points, or
by the version of a quoted datagram. `Span.successor?` tells this from the octets that a span covers,
without regard to how packets are read.

A reading goes by the same rules. Wherever a level starts, its headers stand one behind the other
without a gap, each is the one that the header before it selects, and so is the header that an
encapsulated packet starts with (`Reading.Linked`, `Reading.linked_read`). As for sound readings there
is one lemma for each header; what a header selects is read off the fields that its reader found
(`Ipv4Header.fields_of_read` and its like). The header of an IPv6 datagram includes its extension
headers, and what it selects stands at the end of their chain (`Chain.chainEnd?_of_follow`).
-/

namespace FrameSpans

/-! ## What a header selects -/

namespace ProtocolId

/-- The header that an ethertype selects, if headers of that type are recorded. -/
def ofEtherType? : UInt16 → Option ProtocolId
  | 0x0800 => some .ipv4
  | 0x86dd => some .ipv6
  | 0x0806 | 0x8035 => some .arp
  | 0x8137 => some .ipx
  | 0x6558 => some .ethernet
  | _ => none

/-- The header that an IP protocol number selects, if headers of that protocol are recorded. -/
def ofProtocol? : UInt8 → Option ProtocolId
  | 6 => some .tcp
  | 17 => some .udp
  | 1 => some .icmpv4
  | 58 => some .icmpv6
  | 47 => some .gre
  | 132 => some .sctp
  | 111 => some .ipx
  | 4 => some .ipv4
  | 41 => some .ipv6
  | _ => none

/-- The header that starts with the given octet, an IP header of the version in its upper half. -/
def ofVersion? (first : UInt8) : Option ProtocolId :=
  match first >>> 4 with
  | 4 => some .ipv4
  | 6 => some .ipv6
  | _ => none

end ProtocolId

/-- The next header values that announce an extension header. -/
def extensionValues : List UInt8 := [0, 43, 44, 51, 60, 135, 139, 140]

/-- The next header value at the end of a chain of extension headers that ends at `stop`, if the
header at `position` has type `value`. Fragment headers have eight octets, all others tell their
length in units of eight octets. -/
def chainEnd? (data : Octets) (position stop : Nat) (value : UInt8) : Option UInt8 :=
  if value ∈ extensionValues then
    if position < stop then
      match data.octet? position, data.octet? (position + 1) with
      | some next, some units =>
        chainEnd? data (position + if value = 44 then 8 else 8 * (units.toNat + 1)) stop next
      | _, _ => none
    else none
  else if position = stop then some value
  else none
termination_by stop - position
decreasing_by
  split <;> omega

namespace Octets

variable (data : Octets) (offset length : Nat)

/-- What an Ethernet header selects, tags included: by its length field, or by the type in its last
two octets. -/
def behindEthernet? : Option ProtocolId :=
  match data.word16? (offset + 12) with
  | none => none
  | some type =>
    if type ≤ 1500 then
      if data.word16? (offset + 14) = some 0xffff then some .ipx else some .llc
    else (data.word16? (offset + length - 2)).bind ProtocolId.ofEtherType?

/-- What an LLC header selects, by its service access points. -/
def behindLlc? : Option ProtocolId :=
  match data.octet? offset, data.octet? (offset + 1) with
  | some dsap, some ssap =>
    if dsap = 0xaa ∧ ssap = 0xaa then some .snap
    else if dsap = 0xe0 then some .ipx
    else none
  | _, _ => none

/-- What an IPv4 header selects. Only the first fragment of a datagram has a header behind it. -/
def behindIpv4? : Option ProtocolId :=
  match data.word16? (offset + 6) with
  | none => none
  | some flags =>
    if flags &&& 0x1fff = 0 then (data.octet? (offset + 9)).bind ProtocolId.ofProtocol? else none

/-- What an IPv6 header selects, extension headers included. -/
def behindIpv6? : Option ProtocolId :=
  (data.octet? (offset + 6)).bind fun value =>
    (chainEnd? data (offset + 40) (offset + length) value).bind ProtocolId.ofProtocol?

/-- What an ICMPv6 message selects: an error message quotes a datagram. -/
def behindIcmpv6? : Option ProtocolId :=
  match data.octet? offset with
  | some 1 | some 3 | some 4 => (data.octet? (offset + length)).bind ProtocolId.ofVersion?
  | _ => none

end Octets

/-- The header that the octets of a header select to stand behind it. -/
def Span.successor? (data : Octets) (span : Span) : Option ProtocolId :=
  if span.id = .ethernet then data.behindEthernet? span.offset span.length
  else if span.id = .llc then data.behindLlc? span.offset
  else if span.id = .snap then (data.word16? (span.offset + 3)).bind ProtocolId.ofEtherType?
  else if span.id = .gre then (data.word16? (span.offset + 2)).bind ProtocolId.ofEtherType?
  else if span.id = .ipv4 then data.behindIpv4? span.offset
  else if span.id = .ipv6 then data.behindIpv6? span.offset span.length
  else if span.id = .icmpv6 then data.behindIcmpv6? span.offset span.length
  else none

/-- The header that a level starts with, if it starts with one that is recorded. -/
def Entry.header? (data : Octets) (offset : Nat) : Entry → Option ProtocolId
  | .ethernet => some .ethernet
  | .etherType type => ProtocolId.ofEtherType? type.value
  | .ip => (data.octet? offset).bind ProtocolId.ofVersion?
  | .ipv4 => some .ipv4
  | .ipv6 => some .ipv6

/-! ## Fields of headers -/

namespace Octets

variable {data : Octets} {offset : Nat}

/-- An octet that was accessed is there. -/
theorem octet?_of_octet {octet : UInt8} (h : data.octet offset = .ok octet) :
    data.octet? offset = some octet := by
  unfold Octets.octet at h
  split at h
  · next found =>
    cases h
    exact found
  · cases h

/-- A 16-bit field that was accessed is there. -/
theorem word16?_of_word16 {word : UInt16} (h : data.word16 offset = .ok word) :
    data.word16? offset = some word := by
  obtain ⟨b1, first, h⟩ := ok_of_bind h
  obtain ⟨b0, second, h⟩ := ok_of_bind h
  cases h
  have first' : data[offset]? = some b1 := octet?_of_octet first
  have second' : data[offset + 1]? = some b0 := octet?_of_octet second
  rw [word16?, first', second']

end Octets

section Fields

variable {data : Octets} {offset : Nat}

/-- Where the fields of an Ethernet header stand that tell what follows it. -/
theorem EthernetHeader.fields_of_read {header : EthernetHeader}
    (h : read data offset = .ok header) :
    data.word16? (offset + 12) = some header.typeOrLength ∧
      (header.isNovellRaw = true ↔ data.word16? (offset + 14) = some 0xffff) ∧
      ∀ dsap ssap, header.accessPoints = some (dsap, ssap) →
        data.octet? (offset + 14) = some dsap ∧ data.octet? (offset + 15) = some ssap := by
  obtain ⟨_, _, h⟩ := ok_of_bind h
  obtain ⟨destination, _, h⟩ := ok_of_bind h
  obtain ⟨source, _, h⟩ := ok_of_bind h
  obtain ⟨typeOrLength, field, h⟩ := ok_of_bind h
  cases h
  refine ⟨Octets.word16?_of_word16 field, beq_iff_eq, ?_⟩
  intro dsap ssap points
  dsimp only at points
  split at points
  · next first second =>
    cases points
    exact ⟨first, second⟩
  · cases points

/-- Where the fields of an IPv4 header stand that tell what follows it. -/
theorem Ipv4Header.fields_of_read {header : Ipv4Header} (h : read data offset = .ok header) :
    ∃ flags protocol, data.word16? (offset + 6) = some flags ∧
      data.octet? (offset + 9) = some protocol ∧ header.fragmentOffset = flags <<< 3 ∧
      header.protocol = .ofValue protocol := by
  obtain ⟨_, _, h⟩ := ok_of_bind h
  obtain ⟨first, _, h⟩ := ok_of_bind h
  obtain ⟨totalLength, _, h⟩ := ok_of_bind h
  obtain ⟨flags, field, h⟩ := ok_of_bind h
  obtain ⟨protocol, octet, h⟩ := ok_of_bind h
  cases h
  exact ⟨flags, protocol, Octets.word16?_of_word16 field, Octets.octet?_of_octet octet, rfl, rfl⟩

/-- The fragment offset of an IPv4 header is zero if the low bits of its field are. -/
theorem Ipv4Header.fragmentOffset_eq_zero_iff (flags : UInt16) :
    flags <<< 3 = 0 ↔ flags &&& 0x1fff = 0 := by
  have shifted : (flags <<< 3).toNat = flags.toNat * 8 % 65536 := by
    rw [UInt16.toNat_shiftLeft, Nat.shiftLeft_eq]
    rfl
  have masked : (flags &&& 0x1fff).toNat = flags.toNat % 8192 := by
    rw [UInt16.toNat_and]
    exact Nat.and_two_pow_sub_one_eq_mod flags.toNat 13
  rw [← UInt16.toNat_inj, ← UInt16.toNat_inj, shifted, masked]
  show flags.toNat * 8 % 65536 = 0 ↔ flags.toNat % 8192 = 0
  omega

/-- Where the field of an IPv6 header stands that tells what follows it. -/
theorem Ipv6Header.fields_of_read {header : Ipv6Header} (h : read data offset = .ok header) :
    ∃ next, data.octet? (offset + 6) = some next ∧ header.nextHeader = .ofValue next := by
  obtain ⟨_, _, h⟩ := ok_of_bind h
  obtain ⟨first, _, h⟩ := ok_of_bind h
  obtain ⟨payloadLength, _, h⟩ := ok_of_bind h
  obtain ⟨next, octet, h⟩ := ok_of_bind h
  cases h
  exact ⟨next, Octets.octet?_of_octet octet, rfl⟩

/-- Where the fields of an extension header stand. -/
theorem ExtensionHeader.fields_of_read? {form : ExtensionForm} {header : ExtensionHeader}
    (h : read? data offset form = some header) :
    ∃ next units, data.octet? offset = some next ∧ data.octet? (offset + 1) = some units ∧
      header.nextHeader = .ofValue next ∧
      header.length = if form = .fixed then 8 else units.toNat * 8 + 8 := by
  unfold read? at h
  split at h
  · next next units first second =>
    cases h
    refine ⟨next, units, first, second, rfl, ?_⟩
    cases form <;> rfl
  · cases h

/-- Where the field of a GRE header stands that tells what follows it. -/
theorem GreHeader.fields_of_read {header : GreHeader} (h : read data offset = .ok header) :
    data.word16? (offset + 2) = some header.protocolType := by
  obtain ⟨_, _, h⟩ := ok_of_bind h
  obtain ⟨flags, _, h⟩ := ok_of_bind h
  obtain ⟨protocolType, field, h⟩ := ok_of_bind h
  cases h
  exact Octets.word16?_of_word16 field

/-- Where the type of an ICMP message stands. -/
theorem IcmpHeader.fields_of_read {header : IcmpHeader} (h : read data offset = .ok header) :
    data.octet? offset = some header.type := by
  obtain ⟨_, _, h⟩ := ok_of_bind h
  obtain ⟨type, octet, h⟩ := ok_of_bind h
  obtain ⟨code, _, h⟩ := ok_of_bind h
  cases h
  exact Octets.octet?_of_octet octet

end Fields

/-! ## Tags and chains -/

/-- Behind its tags an Ethernet header ends with the type that was followed to. -/
theorem TaggedType.last_of_unwrap {data : Octets} {offset length : Nat} {type : EtherType}
    (field : data.word16? (offset + length - 2) = some type.value) {tagged : TaggedType}
    (found : unwrap data offset length type = .ok tagged) :
    length ≤ tagged.length ∧
      data.word16? (offset + tagged.length - 2) = some tagged.etherType.value := by
  -- Each tag ends with a type field, so what is true of the type before the tags stays true.
  fun_induction unwrap data offset length type with
  | case1 => cases found
  | case2 length etherType tag inner sum next captured ih =>
    obtain rfl := eq_add_of_advance sum
    have last : offset + (length + EthernetHeader.tagSize) - 2 = offset + (length + 2) := by
      rw [EthernetHeader.tagSize]
      omega
    obtain ⟨longer, told⟩ := ih (by rw [last, captured, EtherType.value_ofValue]) found
    exact ⟨Nat.le_of_add_right_le longer, told⟩
  | case3 | case4 =>
    cases found
    exact ⟨Nat.le_refl _, field⟩

/-- The values that announce extension headers are those of the types that continue a chain. -/
theorem IpProtocol.extensionForm?_ofValue (value : UInt8) :
    (ofValue value).extensionForm? =
      if value ∈ extensionValues then some (if value = 44 then .fixed else .units8) else none := by
  have all : ∀ n : Fin 256, (ofValue ⟨⟨n⟩⟩).extensionForm? =
      if ⟨⟨n⟩⟩ ∈ extensionValues then some (if (⟨⟨n⟩⟩ : UInt8) = 44 then .fixed else .units8)
      else none := by
    decide +kernel
  exact all value.toFin

/-- A chain that was followed to a header that is not an extension header ends with the value of
that header. -/
theorem Chain.chainEnd?_of_follow {data : Octets} {start length : Nat} {next : IpProtocol}
    {isFirst : Bool} {chain : Chain} (found : follow data start next length isFirst = .ok chain)
    (complete : chain.complete = true) {value : UInt8} (told : next = .ofValue value) :
    chainEnd? data (start + length) (start + chain.length) value = some chain.next.value := by
  fun_induction follow data start next length isFirst generalizing chain value with
  | case1 next length isFirst upper =>
    cases found
    rw [told, IpProtocol.extensionForm?_ofValue] at upper
    have other : value ∉ extensionValues := by
      intro extension
      rw [if_pos extension] at upper
      cases upper
    rw [chainEnd?, if_neg other, if_pos rfl, told, IpProtocol.value_ofValue]
  | case2 | case4 => cases found
  | case3 =>
    cases found
    cases complete
  | case5 next length isFirst form extension offset sum header read rest followed ih =>
    cases found
    obtain rfl := eq_add_of_advance sum
    obtain ⟨value', units, first, second, next', size⟩ := ExtensionHeader.fields_of_read? read
    have pos := (ExtensionHeader.lt_size_of_read? read).2
    have later : Reached data (start + (length + header.length)) := by
      rw [← Nat.add_assoc]
      exact reached_of_read? read
    have longer := (placed_follow later followed).1
    have before : start + length < start + rest.length := by omega
    rw [told, IpProtocol.extensionForm?_ofValue] at extension
    by_cases announced : value ∈ extensionValues
    · rw [if_pos announced] at extension
      -- The octets that the chain goes by are those that its end is told from.
      have passed : (if value = 44 then 8 else 8 * (units.toNat + 1)) = header.length := by
        rw [size, ← Option.some.inj extension]
        by_cases fragment : value = 44
        · rw [if_pos fragment, if_pos fragment]
          rfl
        · rw [if_neg fragment, if_neg fragment, if_neg (by decide)]
          omega
      rw [chainEnd?, if_pos announced, if_pos before, first, second]
      dsimp only
      rw [passed, Nat.add_assoc]
      exact ih followed complete next'
    · rw [if_neg announced] at extension
      cases extension

/-- An octet that tells a version selects the header of that version. -/
theorem ProtocolId.ofVersion?_of_ofFirstOctet? (first : UInt8) :
    (IpVersion.ofFirstOctet? first = some .v4 → ofVersion? first = some .ipv4) ∧
      (IpVersion.ofFirstOctet? first = some .v6 → ofVersion? first = some .ipv6) := by
  unfold IpVersion.ofFirstOctet?
  constructor
  · intro found
    split at found
    · next four => simp only [ofVersion?, four]
    · cases found
    · cases found
  · intro found
    split at found
    · cases found
    · next six => simp only [ofVersion?, six]
    · cases found

/-- The messages that quote a datagram are those of three types. -/
theorem Icmpv6Type.value_of_embedded {type : Icmpv6Type} {length : Nat}
    (h : type.layout? = some (.embedded length)) :
    type.value = 1 ∨ type.value = 3 ∨ type.value = 4 := by
  cases type with
  | dstUnreachable => exact .inl rfl
  | timeExceeded => exact .inr (.inl rfl)
  | paramProblem => exact .inr (.inr rfl)
  | _ => cases h

/-- What is found in an IPv4 header: its options, and whether it is that of a fragment. -/
def Ipv4Header.marks (header : Ipv4Header) (options : List HeaderOption) : List Mark :=
  options.map HeaderOption.ipv4Mark ++
    if header.isFragment then [.fragment !header.moreFragments] else []

/-! ## Readings -/

/-- A step that finds no header. -/
def Step.Passed : Step → Prop
  | .header _ | .chained .. => False
  | .mark _ | .framing _ | .payload .. | .remark _ => True

namespace Reading

/-- A reading whose headers stand one behind the other, each selected by the one before. The first
one stands at the given position and is of the given kind, and so is the header of an encapsulated
packet if there is none before it. -/
inductive Linked (data : Octets) : Nat → Option ProtocolId → Reading → Prop
  /-- Nothing more of the packet is read. -/
  | ends {offset : Nat} {selected : Option ProtocolId} {ending : Ending}
    (last : ∀ entry place, ending ≠ .encapsulated entry place) :
    Linked data offset selected (ends ending)
  /-- An encapsulated packet comes next. -/
  | encapsulated (offset : Nat) (entry : Entry) :
    Linked data offset (entry.header? data offset) (ends (.encapsulated entry offset))
  /-- A header comes next. -/
  | header {id : ProtocolId} {offset length : Nat} {rest : Reading} (pos : 0 < length)
    (behind : Linked data (offset + length) (Span.successor? data ⟨id, offset, length⟩) rest) :
    Linked data offset (some id) (after [.header ⟨id, offset, length⟩] rest)
  /-- A header with its chain comes next. -/
  | chained {id : ProtocolId} {offset length more : Nat} {marks : List Mark} {rest : Reading}
    (pos : 0 < length)
    (behind : Linked data (offset + (length + more))
      (Span.successor? data ⟨id, offset, length + more⟩) rest) :
    Linked data offset (some id) (after [.chained ⟨id, offset, length⟩ marks more] rest)
  /-- Something else is found. -/
  | passed {step : Step} {offset : Nat} {selected : Option ProtocolId} {rest : Reading}
    (other : step.Passed) (behind : Linked data offset selected rest) :
    Linked data offset selected (after [step] rest)

/-- The options of an IPv4 header and the flag of a fragment are marks behind the header. -/
theorem after_ipv4Marks (span : Span) (options : List HeaderOption) (header : Ipv4Header)
    (rest : Reading) :
    after (.header span :: options.map fun option => .mark option.ipv4Mark)
        (after (if header.isFragment then [.mark (.fragment !header.moreFragments)] else []) rest) =
      after (.header span :: (header.marks options).map .mark) rest := by
  unfold Ipv4Header.marks after
  rw [List.map_append, List.map_map]
  cases header.isFragment <;> simp [Function.comp_def]

variable {data : Octets} {offset : Nat} {selected : Option ProtocolId}

/-- A reading that finds nothing more to read. -/
theorem Linked.complete : Linked data offset selected complete :=
  .ends nofun

/-- A reading that stops. -/
theorem Linked.stopped (stop : Stop) : Linked data offset selected (stopped stop) :=
  .ends nofun

/-- A remark is all that is left of a header. -/
theorem Linked.remark (remark : Remark) :
    Linked data offset selected (after [.remark remark] Reading.complete) :=
  .passed trivial .complete

/-- A reading that goes on with a result. -/
theorem Linked.attempt {α : Type} {result : Except Stop α} {next : α → Reading}
    (rest : ∀ value, result = .ok value → Linked data offset selected (next value)) :
    Linked data offset selected (attempt result next) := by
  cases result with
  | ok value => exact rest value rfl
  | error stop => exact .stopped stop

/-- Marks in front of a reading. -/
theorem Linked.marks {rest : Reading} (h : Linked data offset selected rest) (marks : List Mark) :
    Linked data offset selected (after (marks.map .mark) rest) := by
  induction marks with
  | nil => exact h
  | cons mark others ih => exact .passed (show Step.Passed (.mark mark) from trivial) ih

/-- A header that selects what follows, and the marks found in it. -/
theorem Linked.marked {id : ProtocolId} {length : Nat} {rest : Reading} (pos : 0 < length)
    (marks : List Mark)
    (behind : Linked data (offset + length) (Span.successor? data ⟨id, offset, length⟩) rest) :
    Linked data offset (some id)
      (after (.header ⟨id, offset, length⟩ :: marks.map .mark) rest) :=
  .header pos (behind.marks marks)

variable (data offset)

/-- A TCP header. -/
theorem linked_tcp : Linked data offset (some .tcp) (tcp data offset) := by
  refine .attempt fun header read => ?_
  split
  · exact .remark _
  · next long =>
    have pos : 0 < header.headerLength := by
      have size : TcpHeader.size = 20 := rfl
      omega
    refine .attempt fun payload passed => .attempt fun options scanned => ?_
    exact .marked pos _ (.ends nofun)

/-- A UDP header. -/
theorem linked_udp : Linked data offset (some .udp) (udp data offset) :=
  .attempt fun _ _ => .attempt fun _ _ => .header (by decide) (.ends nofun)

/-- An SCTP common header. -/
theorem linked_sctp : Linked data offset (some .sctp) (sctp data offset) :=
  .attempt fun _ _ => .header (by decide) .complete

/-- An IPX header. -/
theorem linked_ipx : Linked data offset (some .ipx) (ipx data offset) :=
  .attempt fun _ _ => .header (by decide) .complete

/-- An ICMPv4 header. -/
theorem linked_icmpv4 : Linked data offset (some .icmpv4) (icmpv4 data offset) :=
  .attempt fun _ _ => .header (by decide) .complete

/-- An ARP packet. -/
theorem linked_arp : Linked data offset (some .arp) (arp data offset) :=
  .attempt fun _ _ => .header (Nat.add_pos_left (by decide) _) .complete

/-- An ICMPv6 message, and the datagram that it quotes. -/
theorem linked_icmpv6 : Linked data offset (some .icmpv6) (icmpv6 data offset) := by
  refine .attempt fun header read => ?_
  have type := IcmpHeader.fields_of_read read
  dsimp only
  split
  · exact .remark _
  · next length layout =>
    have pos := Icmpv6Type.pos_of_layout? (.inl layout)
    exact .attempt fun _ _ => .header pos .complete
  · next length layout =>
    have pos := Icmpv6Type.pos_of_layout? (.inr layout)
    have quotes := Icmpv6Type.value_of_embedded layout
    rw [Icmpv6Type.value_ofValue] at quotes
    refine .attempt fun quoted passed => ?_
    obtain ⟨rfl, -⟩ := (data.guarded_behind offset pos).value passed
    refine .header pos ?_
    have selects : Span.successor? data ⟨.icmpv6, offset, length⟩ =
        Entry.header? data (offset + length) .ip := by
      show data.behindIcmpv6? offset length = _
      rw [Octets.behindIcmpv6?, type]
      rcases quotes with one | three | four
      · rw [one]
        rfl
      · rw [three]
        rfl
      · rw [four]
        rfl
    rw [selects]
    exact .encapsulated _ _

/-- A GRE header, and the packet behind it. -/
theorem linked_gre : Linked data offset (some .gre) (gre data offset) := by
  refine .attempt fun header read => ?_
  have field := GreHeader.fields_of_read read
  have pos : 0 < header.headerLength := Nat.succ_pos _
  refine .attempt fun payload passed => ?_
  obtain ⟨rfl, -⟩ := (data.guarded_behind offset pos).value passed
  refine .header pos ?_
  have selects : Span.successor? data ⟨.gre, offset, header.headerLength⟩ =
      Entry.header? data (offset + header.headerLength)
        (.etherType (.ofValue header.protocolType)) := by
    show (data.word16? (offset + 2)).bind ProtocolId.ofEtherType? = _
    rw [field, Entry.header?, EtherType.value_ofValue]
    rfl
  rw [selects]
  exact .encapsulated _ _

/-- The header behind an IP header is the one that the protocol selects. -/
theorem linked_ipPayload (protocol : IpProtocol) (parent : ProtocolId) :
    Linked data offset (ProtocolId.ofProtocol? protocol.value)
      (ipPayload data offset protocol parent) := by
  refine .passed trivial ?_
  cases protocol with
  | tcp => exact linked_tcp data offset
  | udp => exact linked_udp data offset
  | icmp => exact linked_icmpv4 data offset
  | icmpv6 => exact linked_icmpv6 data offset
  | gre => exact linked_gre data offset
  | sctp => exact linked_sctp data offset
  | ipxInIp => exact linked_ipx data offset
  | ipInIp => exact .encapsulated offset .ipv4
  | ipv6 => exact .encapsulated offset .ipv6
  | _ => exact .ends nofun

/-- An IPv4 header, and the payload of a datagram or of its first fragment. -/
theorem linked_ipv4 : Linked data offset (some .ipv4) (ipv4 data offset) := by
  refine .attempt fun header read => ?_
  obtain ⟨flags, protocol, field, octet, fragment, next⟩ := Ipv4Header.fields_of_read read
  split
  · exact .remark _
  · next long =>
    have pos : 0 < header.headerLength := by
      have size : Ipv4Header.size = 20 := rfl
      omega
    refine .attempt fun payload passed => .attempt fun options scanned => ?_
    obtain ⟨rfl, -⟩ := (data.guarded_behind offset pos).value passed
    rw [after_ipv4Marks]
    refine .marked pos _ ?_
    split
    · exact .complete
    · next first =>
      have selects : Span.successor? data ⟨.ipv4, offset, header.headerLength⟩ =
          ProtocolId.ofProtocol? header.protocol.value := by
        have zero : flags &&& 0x1fff = 0 := by
          rw [← Ipv4Header.fragmentOffset_eq_zero_iff, ← fragment]
          exact Decidable.not_not.mp first
        show data.behindIpv4? offset = _
        rw [Octets.behindIpv4?, field]
        dsimp only
        rw [if_pos zero, octet, next, IpProtocol.value_ofValue]
        rfl
      rw [selects]
      exact linked_ipPayload data _ header.protocol .ipv4

/-- An IPv6 header with its extension headers, and the payload of a datagram or of its first
fragment. -/
theorem linked_ipv6 : Linked data offset (some .ipv6) (ipv6 data offset) := by
  refine .attempt fun header read => .attempt fun start sum => .attempt fun chain found => ?_
  refine .attempt fun payload passed => ?_
  obtain ⟨value, octet, next⟩ := Ipv6Header.fields_of_read read
  obtain rfl := eq_add_of_advance sum
  obtain rfl := eq_add_of_advance passed
  refine .chained (by decide) ?_
  split
  · exact .stopped _
  · next complete =>
    split
    · exact .complete
    · have ends := Chain.chainEnd?_of_follow found (by simpa using complete) next
      have selects : Span.successor? data ⟨.ipv6, offset, Ipv6Header.size + chain.length⟩ =
          ProtocolId.ofProtocol? chain.next.value := by
        show data.behindIpv6? offset (Ipv6Header.size + chain.length) = _
        rw [Nat.add_zero, Nat.add_assoc] at ends
        rw [Octets.behindIpv6?, octet]
        show (chainEnd? data (offset + Ipv6Header.size)
          (offset + (Ipv6Header.size + chain.length)) value).bind ProtocolId.ofProtocol? = _
        rw [ends]
        rfl
      rw [selects, ← Nat.add_assoc]
      exact linked_ipPayload data _ chain.next .ipv6

/-- An IP header of the version that its first octet tells. -/
theorem linked_ip :
    Linked data offset ((data.octet? offset).bind ProtocolId.ofVersion?) (ip data offset) := by
  unfold ip
  split
  · exact .stopped _
  · next first found =>
    rw [found]
    split
    · next version =>
      show Linked data offset (ProtocolId.ofVersion? first) _
      rw [(ProtocolId.ofVersion?_of_ofFirstOctet? first).1 version]
      exact linked_ipv4 data offset
    · next version =>
      show Linked data offset (ProtocolId.ofVersion? first) _
      rw [(ProtocolId.ofVersion?_of_ofFirstOctet? first).2 version]
      exact linked_ipv6 data offset
    · exact .remark _

/-- The payload of a link layer or GRE header is the one that its type selects. -/
theorem linked_etherType (type : EtherType) :
    Linked data offset (ProtocolId.ofEtherType? type.value) (etherType type data offset) := by
  cases type with
  | ipv4 => exact linked_ipv4 data offset
  | ipv6 => exact linked_ipv6 data offset
  | arp => exact linked_arp data offset
  | rarp => exact linked_arp data offset
  | ipx => exact linked_ipx data offset
  | transparentBridging => exact .encapsulated offset .ethernet
  | _ => exact .ends nofun

/-- A SNAP header, and the payload of the type that it tells. -/
theorem linked_snap : Linked data offset (some .snap) (snap data offset) := by
  refine .attempt fun typeAt sum => .attempt fun payload passed => ?_
  obtain rfl := eq_add_of_advance sum
  obtain rfl := eq_add_of_advance passed
  split
  · exact .stopped _
  · next type field =>
    have selects : Span.successor? data ⟨.snap, offset, snapSize⟩ =
        ProtocolId.ofEtherType? (EtherType.ofValue type).value := by
      show (data.word16? (offset + snapTypeAt)).bind ProtocolId.ofEtherType? = _
      rw [field, EtherType.value_ofValue]
      rfl
    refine .passed (show Step.Passed (.framing .snap) from trivial) (.header (by decide) ?_)
    rw [selects]
    exact linked_etherType data _ _

/-- What follows the Ethernet header of an 802.3 frame. -/
theorem linked_ieee8023 {header : EthernetHeader}
    (points : ∀ dsap ssap, header.accessPoints = some (dsap, ssap) →
      data.octet? offset = some dsap ∧ data.octet? (offset + 1) = some ssap) :
    Linked data offset (if header.isNovellRaw then some .ipx else some .llc)
      (ieee8023 data offset header) := by
  unfold ieee8023
  split
  · exact .passed trivial (linked_ipx data offset)
  · refine .attempt fun behind passed => ?_
    obtain ⟨rfl, -⟩ := (data.guarded_behind offset (by decide)).value passed
    split
    · exact .stopped _
    · next dsap ssap told =>
      obtain ⟨first, second⟩ := points dsap ssap told
      have selects : Span.successor? data ⟨.llc, offset, llcSize⟩ =
          if dsap = sapSnap ∧ ssap = sapSnap then some .snap
          else if dsap = sapIpx then some .ipx else none := by
        show data.behindLlc? offset = _
        rw [Octets.behindLlc?, first, second]
        rfl
      refine .passed (show Step.Passed (.framing .llc) from trivial) (.header (by decide) ?_)
      rw [selects]
      split
      · exact linked_snap data _
      · split
        · exact linked_ipx data _
        · exact .complete

/-- An Ethernet frame. -/
theorem linked_ethernet : Linked data offset (some .ethernet) (ethernet data offset) := by
  refine .attempt fun header read => ?_
  obtain ⟨field, raw, points⟩ := EthernetHeader.fields_of_read read
  split
  · next length =>
    have short : header.typeOrLength ≤ 1500 := of_decide_eq_true length
    refine .attempt fun behind sum => ?_
    obtain rfl := eq_add_of_advance sum
    refine .header (by decide) ?_
    have selects : Span.successor? data ⟨.ethernet, offset, EthernetHeader.size⟩ =
        if header.isNovellRaw then some .ipx else some .llc := by
      show data.behindEthernet? offset EthernetHeader.size = _
      rw [Octets.behindEthernet?, field]
      dsimp only
      rw [if_pos short]
      by_cases novell : header.isNovellRaw = true
      · rw [if_pos (raw.mp novell), if_pos novell]
      · rw [if_neg fun marked => novell (raw.mpr marked), if_neg novell]
    rw [selects]
    exact linked_ieee8023 data _ points
  · next type =>
    have ethertype : ¬header.typeOrLength ≤ 1500 := fun short => type (decide_eq_true short)
    refine .attempt fun tagged found => ?_
    -- Without tags the header ends with its type field, and each tag ends with the next one.
    have untagged : data.word16? (offset + EthernetHeader.size - 2) =
        some (EtherType.ofValue header.typeOrLength).value := by
      rw [EtherType.value_ofValue]
      exact field
    obtain ⟨longer, last⟩ := TaggedType.last_of_unwrap untagged found
    refine .header (Nat.lt_of_lt_of_le (by decide) longer) ?_
    have selects : Span.successor? data ⟨.ethernet, offset, tagged.length⟩ =
        ProtocolId.ofEtherType? tagged.etherType.value := by
      show data.behindEthernet? offset tagged.length = _
      rw [Octets.behindEthernet?, field]
      dsimp only
      rw [if_neg ethertype, last]
      rfl
    rw [selects]
    split
    · refine .attempt fun payload sum => ?_
      obtain rfl := eq_add_of_advance sum
      exact linked_etherType data _ tagged.etherType
    · exact .stopped _

/-- Wherever a level starts, its headers are linked. -/
theorem linked_read (entry : Entry) :
    Linked data offset (entry.header? data offset) (read entry data offset) := by
  cases entry with
  | ethernet => exact linked_ethernet data offset
  | etherType type => exact linked_etherType data offset type
  | ip => exact linked_ip data offset
  | ipv4 => exact linked_ipv4 data offset
  | ipv6 => exact linked_ipv6 data offset

end Reading

end FrameSpans
