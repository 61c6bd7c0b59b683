import FrameSpans.Header.Ethernet
import FrameSpans.Header.Transport
import FrameSpans.Reading.Chain
import FrameSpans.Reading.Options

/-!
# Reading a level

From the innermost header to the outermost: transport headers, the dispatch on an IP protocol, IP
headers, the dispatch on an ethertype, link layer headers. `Reading.read` starts at any `Entry`.

Every header is checked against the capture before it is recorded. A header that was not captured
completely stops the reading; the spans found before it stay valid.
-/

namespace FrameSpans.Reading

/-! ## Transport headers -/

/-- A TCP header and its options; handlers are asked about what follows. -/
def tcp (data : Octets) (offset : Nat) : Reading :=
  attempt (TcpHeader.read data offset) fun header =>
  if header.headerLength < TcpHeader.size then
    after [.remark (.tcpHeaderLength header.headerLength offset)] complete
  else
    attempt (data.behind offset header.headerLength) fun payload =>
    attempt (HeaderOption.scan data (offset + TcpHeader.size) payload) fun options =>
    after (.header ⟨.tcp, offset, header.headerLength⟩
      :: (options.filterMap HeaderOption.tcpMark?).map .mark) <|
    ends (.consult .tcp payload (.ports header.ports.source header.ports.destination))

/-- A UDP header; handlers are asked about what follows. -/
def udp (data : Octets) (offset : Nat) : Reading :=
  attempt (Ports.read data offset udpSize) fun ports =>
  attempt (advance offset udpSize) fun payload =>
  after [.header ⟨.udp, offset, udpSize⟩] <|
  ends (.consult .udp payload (.ports ports.source ports.destination))

/-- An SCTP common header. -/
def sctp (data : Octets) (offset : Nat) : Reading :=
  attempt (data.require offset sctpSize) fun _ =>
  after [.header ⟨.sctp, offset, sctpSize⟩] complete

/-- An IPX header. -/
def ipx (data : Octets) (offset : Nat) : Reading :=
  attempt (data.require offset ipxSize) fun _ =>
  after [.header ⟨.ipx, offset, ipxSize⟩] complete

/-- An ICMPv4 header. -/
def icmpv4 (data : Octets) (offset : Nat) : Reading :=
  attempt (data.require offset IcmpHeader.sizeV4) fun _ =>
  after [.header ⟨.icmpv4, offset, IcmpHeader.sizeV4⟩] complete

/-- An ICMPv6 message; error messages go on with the datagram they quote. -/
def icmpv6 (data : Octets) (offset : Nat) : Reading :=
  attempt (IcmpHeader.read data offset) fun header =>
  let type := Icmpv6Type.ofValue header.type
  match type.layout? with
  | none => after [.remark (.icmpv6Type type offset)] complete
  | some (.fixed length) =>
    attempt (data.require offset length) fun _ =>
    after [.header ⟨.icmpv6, offset, length⟩] complete
  | some (.embedded length) =>
    attempt (data.behind offset length) fun quoted =>
    after [.header ⟨.icmpv6, offset, length⟩] <|
    ends (.encapsulated .ip quoted)

/-- A GRE header; its payload has an ethertype. -/
def gre (data : Octets) (offset : Nat) : Reading :=
  attempt (GreHeader.read data offset) fun header =>
  attempt (data.behind offset header.headerLength) fun payload =>
  after [.header ⟨.gre, offset, header.headerLength⟩] <|
  ends (.encapsulated (.etherType (.ofValue header.protocolType)) payload)

/-! ## IP headers -/

/-- The header behind an IP header or its extension headers. Handlers for a protocol without
built-in handling are those registered under the IP header. -/
def ipPayload (data : Octets) (offset : Nat) (protocol : IpProtocol) (parent : ProtocolId) :
    Reading :=
  after [.payload protocol offset parent] <|
  match protocol with
  | .tcp => tcp data offset
  | .udp => udp data offset
  | .icmp => icmpv4 data offset
  | .icmpv6 => icmpv6 data offset
  | .gre => gre data offset
  | .sctp => sctp data offset
  | .ipxInIp => ipx data offset
  | .ipInIp => ends (.encapsulated .ipv4 offset)
  | .ipv6 => ends (.encapsulated .ipv6 offset)
  | .ipv6NoNxt => complete
  | other => ends (.consult parent offset (.nextHeader other.value.toUInt16))

/-- An IPv4 header and its options. Only the first fragment of a datagram carries a transport
header. -/
def ipv4 (data : Octets) (offset : Nat) : Reading :=
  attempt (Ipv4Header.read data offset) fun header =>
  if header.headerLength < Ipv4Header.size then
    after [.remark (.ipv4HeaderLength header.headerLength offset)] complete
  else
    attempt (data.behind offset header.headerLength) fun payload =>
    attempt (HeaderOption.scan data (offset + Ipv4Header.size) payload) fun options =>
    after (.header ⟨.ipv4, offset, header.headerLength⟩
      :: options.map fun option => .mark option.ipv4Mark) <|
    after (if header.isFragment then [.mark (.fragment !header.moreFragments)] else []) <|
    -- Later fragments continue a payload whose header went with the first one.
    if header.fragmentOffset ≠ 0 then complete
    else ipPayload data payload header.protocol .ipv4

/-- An IPv6 header and its chain of extension headers. -/
def ipv6 (data : Octets) (offset : Nat) : Reading :=
  attempt (Ipv6Header.read data offset) fun header =>
  attempt (advance offset Ipv6Header.size) fun start =>
  attempt (Chain.read data start header.nextHeader) fun chain =>
  attempt (advance start chain.length) fun payload =>
  after [.chained ⟨.ipv6, offset, Ipv6Header.size⟩ chain.marks chain.length] <|
  if !chain.complete then stopped .truncated
  else if !chain.isFirstFragment then complete
  else ipPayload data payload chain.next .ipv6

/-- An IP header of the version that its first octet tells. -/
def ip (data : Octets) (offset : Nat) : Reading :=
  match data.octet? offset with
  | none => stopped .truncated
  | some first =>
    match IpVersion.ofFirstOctet? first with
    | some .v4 => ipv4 data offset
    | some .v6 => ipv6 data offset
    | none => after [.remark (.noIpVersion first offset)] complete

/-! ## Link layer headers -/

/-- An ARP packet. -/
def arp (data : Octets) (offset : Nat) : Reading :=
  attempt (ArpHeader.read data offset) fun header =>
  after [.header ⟨.arp, offset, header.packetLength⟩] complete

/-- The payload of a link layer or GRE header. -/
def etherType (type : EtherType) (data : Octets) (offset : Nat) : Reading :=
  match type with
  | .ipv4 => ipv4 data offset
  | .ipv6 => ipv6 data offset
  | .arp | .rarp => arp data offset
  | .ipx => ipx data offset
  | .transparentBridging => ends (.encapsulated .ethernet offset)
  | other => ends (.consult .ethernet offset (.nextHeader other.value))

/-- The SNAP header at `offset`. -/
def snap (data : Octets) (offset : Nat) : Reading :=
  attempt (advance offset snapTypeAt) fun typeAt =>
  attempt (advance offset snapSize) fun payload =>
  match data.word16? typeAt with
  | none => stopped .truncated
  | some type =>
    after [.framing .snap, .header ⟨.snap, offset, snapSize⟩] <|
    etherType (.ofValue type) data payload

/-- What follows the Ethernet header of an 802.3 frame, at `offset`. -/
def ieee8023 (data : Octets) (offset : Nat) (header : EthernetHeader) : Reading :=
  if header.isNovellRaw then
    after [.framing .novellRaw] (ipx data offset)
  else
    attempt (data.behind offset llcSize) fun behind =>
    -- An LLC header that was captured has both access points.
    match header.accessPoints with
    | none => stopped .truncated
    | some (dsap, ssap) =>
      after [.framing .llc, .header ⟨.llc, offset, llcSize⟩] <|
      if dsap = sapSnap ∧ ssap = sapSnap then snap data behind
      else if dsap = sapIpx then ipx data behind
      else complete

/-- An Ethernet II or 802.3 frame; VLAN tags belong to the Ethernet header. -/
def ethernet (data : Octets) (offset : Nat) : Reading :=
  attempt (EthernetHeader.read data offset) fun header =>
  if header.is8023 then
    attempt (advance offset EthernetHeader.size) fun behind =>
    after [.header ⟨.ethernet, offset, EthernetHeader.size⟩] <|
    ieee8023 data behind header
  else
    attempt (TaggedType.unwrap data offset EthernetHeader.size (.ofValue header.typeOrLength))
      fun tagged =>
    after [.header ⟨.ethernet, offset, tagged.length⟩] <|
    if tagged.complete then
      attempt (advance offset tagged.length) fun payload => etherType tagged.etherType data payload
    else stopped .truncated

/-! ## Entries -/

/-- The reading of the level that starts at `offset` in the given way. -/
def read (entry : Entry) (data : Octets) (offset : Nat) : Reading :=
  match entry with
  | .ethernet => ethernet data offset
  | .etherType type => etherType type data offset
  | .ip => ip data offset
  | .ipv4 => ipv4 data offset
  | .ipv6 => ipv6 data offset

end FrameSpans.Reading
