import FrameSpans.Proofs.Reading.Displacement
import FrameSpans.Proofs.Reading.Whole

/-!
# Headers that were captured

What a check asks for is there if it was captured, and so a reader gives a header if all octets of
the header were captured. Where the fields stand is told by the `fields_of_read` of each header.

From this, readings are computed whose first header is known: an IP header without options and
extension headers (`Reading.ipv4_of_fields`, `Reading.ipv6_of_fields`), a GRE header
(`Reading.gre_of_fields`), and an Ethernet header, be it one with a type (`Reading.ethernet_of_type`)
or one with a length and a SNAP header behind it (`Reading.ethernet_of_snap`).
-/

namespace FrameSpans

namespace Octets

variable {data : Octets} {offset length : Nat}

/-! ## Octets -/

/-- An octet that is there can be accessed. -/
theorem octet_of_octet? {octet : UInt8} (h : data.octet? offset = some octet) :
    data.octet offset = .ok octet := by
  have there : data[offset]? = some octet := h
  rw [Octets.octet, there]

/-- An octet within the capture is there. -/
theorem exists_octet? (inside : offset < data.size) : ∃ octet, data.octet? offset = some octet :=
  ⟨data[offset], Array.getElem?_eq_getElem inside⟩

/-- An octet within the capture can be accessed. -/
theorem exists_octet (inside : offset < data.size) : ∃ octet, data.octet offset = .ok octet := by
  obtain ⟨octet, found⟩ := exists_octet? inside
  exact ⟨octet, octet_of_octet? found⟩

/-- A 16-bit field within the capture can be accessed. -/
theorem exists_word16 (inside : offset + 1 < data.size) : ∃ word, data.word16 offset = .ok word := by
  obtain ⟨word, found⟩ := exists_word16? inside
  exact ⟨word, word16_of_word16? found⟩

/-- A 16-bit field that is there is that of its octets. -/
theorem word16?_of_octets {high low : UInt8} (first : data.octet? offset = some high)
    (second : data.octet? (offset + 1) = some low) :
    data.word16? offset = some (FrameSpans.word16 high low) := by
  have first' : data[offset]? = some high := first
  have second' : data[offset + 1]? = some low := second
  rw [word16?, first', second']

/-- Octets that were captured pass a check. -/
theorem require_of_le (captured : offset + length ≤ data.size) :
    data.require offset length = .ok () :=
  if_neg (by unfold Octets.captured; omega)

/-- Octets that were captured can be cut out. -/
theorem slice_of_le (captured : offset + length ≤ data.size) :
    data.slice offset length = .ok (data.extract offset (offset + length)) :=
  if_neg (by unfold Octets.captured; omega)

/-- The position behind a header that was captured. -/
theorem behind_of_le (roomy : data.size < offsetBound) (captured : offset + length ≤ data.size) :
    data.behind offset length = .ok (offset + length) := by
  rw [behind, require_of_le captured]
  exact if_pos (by omega)

end Octets

/-! ## Headers -/

section Headers

variable {data : Octets} {offset : Nat}

/-- An Ethernet header that was captured can be read. -/
theorem EthernetHeader.exists_read (captured : offset + size ≤ data.size) :
    ∃ header, read data offset = .ok header := by
  have inside : offset + 14 ≤ data.size := captured
  obtain ⟨type, field⟩ := Octets.exists_word16 (by omega : offset + 12 + 1 < data.size)
  unfold read
  rw [Octets.require_of_le captured, Octets.slice_of_le (by omega), Octets.slice_of_le (by omega),
    field]
  exact ⟨_, rfl⟩

/-- The access points of an LLC header are read if they were captured. -/
theorem EthernetHeader.accessPoints_of_read {header : EthernetHeader}
    (h : read data offset = .ok header) {dsap ssap : UInt8}
    (first : data.octet? (offset + 14) = some dsap)
    (second : data.octet? (offset + 15) = some ssap) :
    header.accessPoints = some (dsap, ssap) := by
  obtain ⟨_, _, h⟩ := ok_of_bind h
  obtain ⟨destination, _, h⟩ := ok_of_bind h
  obtain ⟨source, _, h⟩ := ok_of_bind h
  obtain ⟨typeOrLength, _, h⟩ := ok_of_bind h
  cases h
  dsimp only
  rw [first, second]

/-- An IPv4 header whose fixed part was captured can be read. -/
theorem Ipv4Header.exists_read (captured : offset + size ≤ data.size) :
    ∃ header, read data offset = .ok header := by
  have inside : offset + 20 ≤ data.size := captured
  obtain ⟨first, octet⟩ := Octets.exists_octet (by omega : offset < data.size)
  obtain ⟨total, length⟩ := Octets.exists_word16 (by omega : offset + 2 + 1 < data.size)
  obtain ⟨flags, field⟩ := Octets.exists_word16 (by omega : offset + 6 + 1 < data.size)
  obtain ⟨protocol, next⟩ := Octets.exists_octet (by omega : offset + 9 < data.size)
  unfold read
  rw [Octets.require_of_le captured, octet, length, field, next]
  exact ⟨_, rfl⟩

/-- The first octet of an IPv4 header tells its length. -/
theorem Ipv4Header.headerLength_of_read {header : Ipv4Header} (h : read data offset = .ok header)
    {first : UInt8} (octet : data.octet? offset = some first) :
    header.headerLength = (first &&& 0x0f).toNat * 4 := by
  obtain ⟨_, _, h⟩ := ok_of_bind h
  obtain ⟨found, accessed, h⟩ := ok_of_bind h
  obtain ⟨totalLength, _, h⟩ := ok_of_bind h
  obtain ⟨flags, _, h⟩ := ok_of_bind h
  obtain ⟨protocol, _, h⟩ := ok_of_bind h
  cases h
  cases octet.symm.trans (Octets.octet?_of_octet accessed)
  rfl

/-- An IPv6 header that was captured can be read. -/
theorem Ipv6Header.exists_read (captured : offset + size ≤ data.size) :
    ∃ header, read data offset = .ok header := by
  have inside : offset + 40 ≤ data.size := captured
  obtain ⟨first, octet⟩ := Octets.exists_octet (by omega : offset < data.size)
  obtain ⟨length, field⟩ := Octets.exists_word16 (by omega : offset + 4 + 1 < data.size)
  obtain ⟨next, type⟩ := Octets.exists_octet (by omega : offset + 6 < data.size)
  unfold read
  rw [Octets.require_of_le captured, octet, field, type]
  exact ⟨_, rfl⟩

/-- A GRE header whose fixed part was captured can be read. -/
theorem GreHeader.read_of_fields {flags type : UInt16} (first : data.word16? offset = some flags)
    (second : data.word16? (offset + 2) = some type) : read data offset = .ok ⟨flags, type⟩ := by
  have inside : offset + size ≤ data.size := by
    have last := Octets.lt_size_of_word16? second
    unfold size
    omega
  unfold read
  rw [Octets.require_of_le inside, Octets.word16_of_word16? first, Octets.word16_of_word16? second]
  rfl

end Headers

namespace Reading

variable {data : Octets} {offset : Nat}

/-! ## IP headers -/

/-- An IPv4 header without options, of a datagram that is no fragment, and its payload. -/
theorem ipv4_of_fields {protocol : UInt8} (roomy : data.size < offsetBound)
    (captured : offset + Ipv4Header.size ≤ data.size) (first : data.octet? offset = some 0x45)
    (whole : data.WholeIpv4 offset) (next : data.octet? (offset + 9) = some protocol) :
    ipv4 data offset =
      after [.header ⟨.ipv4, offset, Ipv4Header.size⟩]
        (ipPayload data (offset + Ipv4Header.size) (.ofValue protocol) .ipv4) := by
  obtain ⟨header, read⟩ := Ipv4Header.exists_read captured
  have length : header.headerLength = Ipv4Header.size := Ipv4Header.headerLength_of_read read first
  obtain ⟨flags, found, field, octet, placed, named⟩ := Ipv4Header.fields_of_read read
  cases next.symm.trans octet
  have unfragmented := Ipv4Header.isFragment_of_whole read whole
  have start : ¬header.fragmentOffset ≠ 0 := by
    unfold Ipv4Header.isFragment at unfragmented
    rw [Bool.or_eq_false_iff, bne_eq_false_iff_eq] at unfragmented
    exact not_not_intro unfragmented.2
  have bare : HeaderOption.scan data (offset + Ipv4Header.size) (offset + Ipv4Header.size) =
      .ok [] := by
    rw [HeaderOption.scan_eq, if_neg (Nat.lt_irrefl _)]
  have long : ¬header.headerLength < Ipv4Header.size := by
    rw [length]
    exact Nat.lt_irrefl _
  rw [ipv4, read, attempt_ok, if_neg long, length, Octets.behind_of_le roomy captured, attempt_ok,
    bare, attempt_ok, unfragmented, if_neg start, named]
  rfl

/-- An IPv6 header without extension headers, and its payload. -/
theorem ipv6_of_fields {protocol : UInt8} (roomy : data.size < offsetBound)
    (captured : offset + Ipv6Header.size ≤ data.size)
    (next : data.octet? (offset + 6) = some protocol)
    (upper : protocol ∉ extensionValues) :
    ipv6 data offset =
      after [.chained ⟨.ipv6, offset, Ipv6Header.size⟩ [] 0]
        (ipPayload data (offset + Ipv6Header.size) (.ofValue protocol) .ipv6) := by
  obtain ⟨header, read⟩ := Ipv6Header.exists_read captured
  obtain ⟨found, octet, named⟩ := Ipv6Header.fields_of_read read
  cases next.symm.trans octet
  have form : (IpProtocol.ofValue protocol).extensionForm? = none := by
    rw [IpProtocol.extensionForm?_ofValue, if_neg upper]
  have position : offset + Ipv6Header.size < offsetBound := Nat.lt_of_le_of_lt captured roomy
  have start : advance offset Ipv6Header.size = .ok (offset + Ipv6Header.size) := if_pos position
  have none : advance (offset + Ipv6Header.size) 0 = .ok (offset + Ipv6Header.size) :=
    if_pos position
  have unchained : Chain.read data (offset + Ipv6Header.size) (.ofValue protocol) =
      .ok ⟨.ofValue protocol, 0, [], true, true⟩ := by
    rw [Chain.read, Chain.follow_eq, form]
  rw [ipv6, read, attempt_ok, start, attempt_ok, named, unchained, attempt_ok, none, attempt_ok]
  rfl

/-- A GRE header that was captured, and the packet behind it. -/
theorem gre_of_fields {flags type : UInt16} (roomy : data.size < offsetBound)
    (first : data.word16? offset = some flags) (second : data.word16? (offset + 2) = some type)
    (captured : offset + GreHeader.lengthOf flags ≤ data.size) :
    gre data offset =
      after [.header ⟨.gre, offset, GreHeader.lengthOf flags⟩]
        (ends (.encapsulated (.etherType (.ofValue type)) (offset + GreHeader.lengthOf flags))) := by
  have behind : data.behind offset (GreHeader.headerLength ⟨flags, type⟩) =
      .ok (offset + GreHeader.lengthOf flags) :=
    Octets.behind_of_le roomy captured
  rw [gre, GreHeader.read_of_fields first second, attempt_ok, behind, attempt_ok]
  rfl

/-! ## Ethernet headers -/

/-- An Ethernet frame whose type field is no length. -/
theorem ethernet_of_type {type : UInt16} (field : data.word16? (offset + 12) = some type)
    (ethertype : ¬type ≤ 1500) :
    ethernet data offset =
      attempt (TaggedType.unwrap data offset EthernetHeader.size (.ofValue type)) fun tagged =>
        after [.header ⟨.ethernet, offset, tagged.length⟩] (behindTags tagged data offset) := by
  obtain ⟨header, read⟩ := EthernetHeader.exists_read (Octets.lt_size_of_word16? field)
  cases field.symm.trans (EthernetHeader.fields_of_read read).1
  have is8023 : ¬header.is8023 = true := by
    unfold EthernetHeader.is8023
    rw [decide_eq_true_iff]
    exact ethertype
  unfold ethernet
  rw [read, attempt_ok, if_neg is8023]
  rfl

/-- An 802.3 frame with a SNAP header, and the payload of the type that this header tells. -/
theorem ethernet_of_snap {length type : UInt16} (roomy : data.size < offsetBound)
    (sized : data.word16? (offset + 12) = some length) (short : length ≤ 1500)
    (dsap : data.octet? (offset + 14) = some sapSnap)
    (ssap : data.octet? (offset + 15) = some sapSnap)
    (field : data.word16? (offset + 20) = some type) :
    ethernet data offset =
      after [.header ⟨.ethernet, offset, EthernetHeader.size⟩] (
        after [.framing .llc, .header ⟨.llc, offset + 14, llcSize⟩] (
          after [.framing .snap, .header ⟨.snap, offset + 17, snapSize⟩]
            (etherType (.ofValue type) data (offset + 22)))) := by
  have captured : offset + 21 < data.size := Octets.lt_size_of_word16? field
  obtain ⟨header, read⟩ := EthernetHeader.exists_read (Octets.lt_size_of_word16? sized)
  obtain ⟨told, raw, -⟩ := EthernetHeader.fields_of_read read
  cases sized.symm.trans told
  have is8023 : header.is8023 = true := decide_eq_true short
  have cooked : ¬header.isNovellRaw = true := by
    rw [raw, Octets.word16?_of_octets dsap ssap]
    decide
  have points := EthernetHeader.accessPoints_of_read read dsap ssap
  have start : advance offset EthernetHeader.size = .ok (offset + 14) :=
    if_pos (by unfold EthernetHeader.size; omega)
  have behind : data.behind (offset + 14) llcSize = .ok (offset + 17) :=
    Octets.behind_of_le roomy (by unfold llcSize; omega)
  have typeAt : advance (offset + 17) snapTypeAt = .ok (offset + 20) :=
    if_pos (by unfold snapTypeAt; omega)
  have payload : advance (offset + 17) snapSize = .ok (offset + 22) :=
    if_pos (by unfold snapSize; omega)
  have body : ieee8023 data (offset + 14) header =
      after [.framing .llc, .header ⟨.llc, offset + 14, llcSize⟩] (
        after [.framing .snap, .header ⟨.snap, offset + 17, snapSize⟩]
          (etherType (.ofValue type) data (offset + 22))) := by
    rw [ieee8023, if_neg cooked, behind, attempt_ok, points]
    dsimp only
    rw [if_pos ⟨rfl, rfl⟩, snap, typeAt, attempt_ok, payload, attempt_ok, field]
  rw [ethernet, read, attempt_ok, if_pos is8023, start, attempt_ok, body]

end Reading

end FrameSpans
