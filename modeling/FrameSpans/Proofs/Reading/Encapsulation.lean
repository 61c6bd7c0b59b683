import FrameSpans.Proofs.Reading.Captured
import FrameSpans.Proofs.Reading.Cut

/-!
# IP datagrams that carry IP datagrams

An IP datagram carries another one directly, behind a GRE header, or in an Ethernet frame behind a
GRE header. `Octets.Nest` tells from the octets alone that datagrams are nested in this way, in how
many headers, and which header is the innermost one.

`Reading.Finds` tells the same from readings: which levels are entered on the way to a header.
`Octets.Nest.finds` leads from the one to the other. Entering a datagram that is carried directly or
behind a GRE header takes one level, entering one in a bridged frame takes two: the payload of the
GRE header takes a level, and the frame that it consists of takes another one.
-/

namespace FrameSpans

/-! ## Nested datagrams -/

namespace IpVersion

/-- The ethertype of a version. -/
def etherType : IpVersion → UInt16
  | .v4 => 0x0800
  | .v6 => 0x86dd

/-- The protocol value of a version, where a datagram is carried by another one. -/
def protocol : IpVersion → UInt8
  | .v4 => 4
  | .v6 => 41

/-- The number of octets of a header without options and extension headers. -/
def headerLength : IpVersion → Nat
  | .v4 => 20
  | .v6 => 40

/-- The header at `offset`, without options and extension headers. -/
def header (offset : Nat) : IpVersion → Span
  | .v4 => ⟨.ipv4, offset, 20⟩
  | .v6 => ⟨.ipv6, offset, 40⟩

/-- The header starts at its offset. -/
@[simp] theorem offset_header (version : IpVersion) (offset : Nat) :
    (version.header offset).offset = offset := by
  cases version <;> rfl

/-- The header has as many octets as a header of its version. -/
@[simp] theorem length_header (version : IpVersion) (offset : Nat) :
    (version.header offset).length = version.headerLength := by
  cases version <;> rfl

end IpVersion

/-- How an IP datagram carries another one. -/
inductive Carrier
  /-- Directly. -/
  | ip
  /-- Behind a GRE header. -/
  | gre
  /-- In an Ethernet frame behind a GRE header. -/
  | bridged
  deriving DecidableEq, Repr

/-- The number of levels that it takes to enter a datagram that is carried. -/
def Carrier.levels : Carrier → Nat
  | .ip | .gre => 1
  | .bridged => 2

/-- Each datagram that is carried takes a level, and each bridged frame takes another one. -/
theorem Carrier.levels_cons (carrier : Carrier) (carriers : List Carrier) :
    (carrier :: carriers).length + (carrier :: carriers).count .bridged =
      carriers.length + carriers.count .bridged + carrier.levels := by
  rw [List.length_cons, List.count_cons]
  cases carrier <;> exact Nat.add_add_add_comm _ _ _ _

namespace Octets

/-- The IP header of the given version at `offset` has neither options nor extension headers, it is
not that of a fragment, and its payload is of the given protocol. -/
def PlainIp (data : Octets) (offset : Nat) (protocol : UInt8) : IpVersion → Prop
  | .v4 => offset + 20 ≤ data.size ∧ data.octet? offset = some 0x45 ∧
      data.WholeIpv4 offset ∧ data.octet? (offset + 9) = some protocol
  | .v6 => offset + 40 ≤ data.size ∧ (∃ first, data.octet? offset = some first ∧ first >>> 4 = 6) ∧
      protocol ∉ extensionValues ∧ data.octet? (offset + 6) = some protocol

/-- Following VLAN tags from a type field at one position leads to the type field at another one,
which tells the given type. -/
inductive TypeBehindTags (data : Octets) (type : UInt16) : Nat → Nat → Prop
  /-- There is no tag. -/
  | untagged {position : Nat} (field : data.word16? position = some type) :
    TypeBehindTags data type position position
  /-- There is a tag. -/
  | tagged {position last : Nat} {tag : UInt16} (field : data.word16? position = some tag)
    (announced : tag = 0x8100 ∨ tag = 0x88a8)
    (rest : TypeBehindTags data type (position + 4) last) :
    TypeBehindTags data type position last

/-- The Ethernet frame at `offset` carries an IP datagram of the given version at `inner`, behind so
many headers. -/
inductive FrameCarries (data : Octets) (offset : Nat) (version : IpVersion) : Nat → Nat → Prop
  /-- It is an Ethernet II frame, perhaps with VLAN tags. -/
  | typed {last : Nat} (type : data.TypeBehindTags version.etherType (offset + 12) last) :
    FrameCarries data offset version 1 (last + 2)
  /-- It is an 802.3 frame with a SNAP header. -/
  | snap {length : UInt16} (sized : data.word16? (offset + 12) = some length)
    (short : length ≤ 1500) (dsap : data.octet? (offset + 14) = some 0xaa)
    (ssap : data.octet? (offset + 15) = some 0xaa)
    (type : data.word16? (offset + 20) = some version.etherType) :
    FrameCarries data offset version 3 (offset + 22)

/-- The payload at `offset` of an IP header, of the given protocol, carries an IP datagram of the
given version at `inner`, behind so many headers. -/
inductive Carries (data : Octets) (offset : Nat) (version : IpVersion) :
    UInt8 → Carrier → Nat → Nat → Prop
  /-- The payload is the datagram. -/
  | ip : Carries data offset version version.protocol .ip 0 offset
  /-- The datagram is the payload of a GRE header, with optional fields or without. -/
  | gre {flags : UInt16} (field : data.word16? offset = some flags)
    (type : data.word16? (offset + 2) = some version.etherType) :
    Carries data offset version 47 .gre 1 (offset + GreHeader.lengthOf flags)
  /-- The payload of a GRE header is an Ethernet frame that carries the datagram. -/
  | bridged {flags : UInt16} {headers inner : Nat} (field : data.word16? offset = some flags)
    (type : data.word16? (offset + 2) = some 0x6558)
    (frame : data.FrameCarries (offset + GreHeader.lengthOf flags) version headers inner) :
    Carries data offset version 47 .bridged (headers + 1) inner

/-- The IP datagram of the given version at `offset` carries another one, which carries another one,
and so on, by the given carriers. With the innermost header, there are so many headers. -/
inductive Nest (data : Octets) : IpVersion → Nat → List Carrier → Nat → Span → Prop
  /-- It is the innermost datagram. -/
  | innermost {version : IpVersion} {offset : Nat} {protocol : UInt8}
    (plain : data.PlainIp offset protocol version) :
    Nest data version offset [] 1 (version.header offset)
  /-- It carries another datagram. -/
  | carries {version inner : IpVersion} {offset innerOffset headers more : Nat} {protocol : UInt8}
    {carrier : Carrier} {carriers : List Carrier} {innermost : Span}
    (plain : data.PlainIp offset protocol version)
    (carried : data.Carries (offset + version.headerLength) inner protocol carrier headers
      innerOffset)
    (rest : Nest data inner innerOffset carriers more innermost) :
    Nest data version offset (carrier :: carriers) (more + headers + 1) innermost

end Octets

/-! ## Readings that find a header -/

/-- The step finds one header and nothing besides. -/
inductive Step.Finds (span : Span) : Step → Prop
  /-- A header of any kind. -/
  | header : Step.Finds span (.header span)
  /-- A header with an empty chain. -/
  | unchained : Step.Finds span (.chained span [] 0)

namespace Reading

/-- Following the reading finds a header that stands so many levels further in. With it, so many
headers are found, and those in front of it start before it. -/
inductive Finds (data : Octets) (found : Span) : Nat → Nat → Reading → Prop
  /-- It is the first header that is found. -/
  | here {step : Step} {rest : Reading} (finds : step.Finds found)
    (captured : found.offset + found.length ≤ data.size) :
    Finds data found 0 1 (after [step] rest)
  /-- It is found behind another header. -/
  | behind {step : Step} {span : Span} {levels headers : Nat} {rest : Reading}
    (finds : step.Finds span) (captured : span.offset + span.length ≤ data.size)
    (front : span.offset < found.offset) (later : Finds data found levels headers rest) :
    Finds data found levels (headers + 1) (after [step] rest)
  /-- It is found behind a step that finds no header. -/
  | passed {step : Step} {levels headers : Nat} {rest : Reading} (idle : step.Idle)
    (later : Finds data found levels headers rest) :
    Finds data found levels headers (after [step] rest)
  /-- It is found in an encapsulated packet. -/
  | entered {entry : Entry} {offset levels headers : Nat}
    (deeper : Finds data found levels headers (read entry data offset)) :
    Finds data found (levels + 1) headers (ends (.encapsulated entry offset))

/-- A header is found behind the framing and another header. -/
theorem Finds.framed {data : Octets} {found : Span} {levels headers : Nat} {type : L2Type}
    {id : ProtocolId} {offset length : Nat} {rest : Reading}
    (captured : offset + length ≤ data.size) (front : offset < found.offset)
    (later : Finds data found levels headers rest) :
    Finds data found levels (headers + 1)
      (after [.framing type, .header ⟨id, offset, length⟩] rest) :=
  .passed (show Step.Idle (.framing type) from trivial) (.behind .header captured front later)

/-- The reading of an IP header of the given version. -/
def ipOf (data : Octets) (offset : Nat) : IpVersion → Reading
  | .v4 => ipv4 data offset
  | .v6 => ipv6 data offset

/-- The payload of a link layer or GRE header with the ethertype of a version is a datagram of that
version. -/
theorem etherType_version (data : Octets) (offset : Nat) (version : IpVersion) :
    etherType (.ofValue version.etherType) data offset = ipOf data offset version := by
  cases version <;> rfl

end Reading

/-! ## From octets to readings -/

namespace Octets

variable {data : Octets} {offset : Nat} {version : IpVersion}

section Ip

variable {protocol : UInt8} (plain : data.PlainIp offset protocol version)

include plain

/-- An IP header without options and extension headers was captured. -/
theorem PlainIp.captured : offset + version.headerLength ≤ data.size := by
  cases version <;> exact plain.1

/-- The span of such a header lies within the capture. -/
theorem PlainIp.header_captured :
    (version.header offset).offset + (version.header offset).length ≤ data.size := by
  rw [IpVersion.offset_header, IpVersion.length_header]
  exact plain.captured

/-- An IP header without options and extension headers is found, and nothing in it. -/
theorem PlainIp.exists_step (roomy : data.size < offsetBound) :
    ∃ step parent, Step.Finds (version.header offset) step ∧
      Reading.ipOf data offset version =
        Reading.after [step]
          (Reading.ipPayload data (offset + version.headerLength) (.ofValue protocol) parent) := by
  cases version with
  | v4 =>
    obtain ⟨captured, first, whole, next⟩ := plain
    exact ⟨_, .ipv4, .header, Reading.ipv4_of_fields roomy captured first whole next⟩
  | v6 =>
    obtain ⟨captured, -, upper, next⟩ := plain
    exact ⟨_, .ipv6, .unchained, Reading.ipv6_of_fields roomy captured next upper⟩

/-- The first octet of an IP header tells its version. -/
theorem PlainIp.ip_eq : Reading.ip data offset = Reading.ipOf data offset version := by
  cases version with
  | v4 =>
    obtain ⟨-, first, -⟩ := plain
    rw [Reading.ip, first]
    rfl
  | v6 =>
    obtain ⟨-, ⟨first, octet, six⟩, -⟩ := plain
    have told : IpVersion.ofFirstOctet? first = some .v6 := by
      rw [IpVersion.ofFirstOctet?, six]
      rfl
    rw [Reading.ip, octet]
    dsimp only
    rw [told]
    rfl

end Ip

/-- Tags stand in front of the type field behind them. -/
theorem TypeBehindTags.le {type : UInt16} {position last : Nat}
    (h : data.TypeBehindTags type position last) : position ≤ last := by
  induction h with
  | untagged => exact Nat.le_refl _
  | tagged _ _ _ ih => exact Nat.le_of_add_right_le ih

/-- An Ethernet frame starts before the datagram that it carries. -/
theorem FrameCarries.lt {headers inner : Nat}
    (frame : data.FrameCarries offset version headers inner) : offset < inner := by
  cases frame with
  | typed type =>
    have behind := type.le
    omega
  | snap => omega

/-- A payload starts no later than the datagram that it carries. -/
theorem Carries.le {protocol : UInt8} {carrier : Carrier} {headers inner : Nat}
    (carried : data.Carries offset version protocol carrier headers inner) : offset ≤ inner := by
  cases carried with
  | ip => exact Nat.le_refl _
  | gre => exact Nat.le_add_right _ _
  | bridged _ _ frame => exact Nat.le_of_add_right_le (Nat.le_of_lt frame.lt)

/-- Nested datagrams start with an IP header that was captured, and it is not behind the innermost
one. -/
theorem Nest.start {headers : Nat} {carriers : List Carrier} {innermost : Span}
    (nest : data.Nest version offset carriers headers innermost) :
    offset + version.headerLength ≤ data.size ∧ offset ≤ innermost.offset := by
  induction nest with
  | @innermost version offset protocol plain =>
    exact ⟨plain.captured, Nat.le_of_eq (version.offset_header _).symm⟩
  | carries plain carried rest ih =>
    have behind := carried.le
    exact ⟨plain.captured, by omega⟩

/-- The first octet of nested datagrams tells the version of the outermost one. -/
theorem Nest.ip_eq {headers : Nat} {carriers : List Carrier} {innermost : Span}
    (nest : data.Nest version offset carriers headers innermost) :
    Reading.ip data offset = Reading.ipOf data offset version := by
  cases nest with
  | innermost plain => exact plain.ip_eq
  | carries plain => exact plain.ip_eq

/-- Tags are followed to the type field behind the last of them. -/
theorem TypeBehindTags.exists_unwrap {position last length : Nat}
    (h : data.TypeBehindTags version.etherType position last) (roomy : data.size < offsetBound)
    (here : position + 2 = offset + length) :
    ∃ first, data.word16? position = some first ∧ ¬first ≤ 1500 ∧
      TaggedType.unwrap data offset length (.ofValue first) =
        .ok ⟨.ofValue version.etherType, last + 2 - offset, true⟩ := by
  induction h generalizing length with
  | @untagged position field =>
    have passed : position + 2 - offset = length := by omega
    refine ⟨_, field, ?_, ?_⟩
    · cases version <;> decide
    · rw [TaggedType.unwrap_eq, passed]
      cases version <;> rfl
  | @tagged position last tag field announced rest ih =>
    have next : position + 4 + 2 = offset + (length + EthernetHeader.tagSize) := by
      unfold EthernetHeader.tagSize
      omega
    obtain ⟨type, found, -, followed⟩ := ih next
    have inside := Octets.lt_size_of_word16? found
    have sum : offset + (length + 2) = position + 4 := by omega
    have inner : advance offset (length + 2) = .ok (position + 4) := by
      rw [advance, sum]
      exact if_pos (by omega)
    have tagged : (EtherType.ofValue tag).isTag = true := by
      rcases announced with rfl | rfl <;> rfl
    refine ⟨tag, field, ?_, ?_⟩
    · rcases announced with rfl | rfl <;> decide
    · rw [TaggedType.unwrap_eq, if_pos tagged, inner]
      dsimp only
      rw [found]
      exact followed

end Octets

/-! ## From nested datagrams to their innermost header -/

section Finds

open Reading

variable {data : Octets} (roomy : data.size < offsetBound) {found : Span} {levels more : Nat}

include roomy

/-- What is found in a datagram that an Ethernet frame carries is found in the frame. -/
theorem Octets.FrameCarries.finds {offset headers inner : Nat} {version : IpVersion}
    (frame : data.FrameCarries offset version headers inner) (captured : inner ≤ data.size)
    (front : inner ≤ found.offset) (rest : Finds data found levels more (ipOf data inner version)) :
    Finds data found levels (more + headers) (ethernet data offset) := by
  cases frame with
  | @typed last type =>
    have start : offset + 12 + 2 = offset + EthernetHeader.size := rfl
    have behind := type.le
    obtain ⟨first, field, ethertype, unwrapped⟩ := type.exists_unwrap roomy start
    have sum : offset + (last + 2 - offset) = last + 2 := by omega
    have payload : advance offset (last + 2 - offset) = .ok (last + 2) := by
      rw [advance, sum]
      exact if_pos (by omega)
    rw [ethernet_of_type field ethertype, unwrapped, attempt_ok, behindTags, if_pos rfl, payload,
      attempt_ok, etherType_version]
    refine .behind .header ?_ ?_ rest
    · show offset + (last + 2 - offset) ≤ data.size
      omega
    · show offset < found.offset
      omega
  | @snap length sized short dsap ssap type =>
    rw [ethernet_of_snap roomy sized short dsap ssap type, etherType_version]
    -- Three headers stand in front of the datagram, the last of them ends where it starts.
    refine .behind .header ?_ ?_ (.framed ?_ ?_ (.framed captured ?_ rest))
    · show offset + EthernetHeader.size ≤ data.size
      unfold EthernetHeader.size
      omega
    · show offset < found.offset
      omega
    · unfold llcSize
      omega
    · omega
    · omega

/-- What is found in a datagram that the payload of an IP header carries is found in the payload. -/
theorem Octets.Carries.finds {offset headers inner : Nat} {version : IpVersion} {protocol : UInt8}
    {carrier : Carrier} (carried : data.Carries offset version protocol carrier headers inner)
    (captured : inner ≤ data.size) (front : inner ≤ found.offset)
    (rest : Finds data found levels more (ipOf data inner version)) (parent : ProtocolId) :
    Finds data found (levels + carrier.levels) (more + headers)
      (ipPayload data offset (.ofValue protocol) parent) := by
  refine .passed trivial ?_
  cases carried with
  | ip =>
    cases version with
    | v4 => exact .entered rest
    | v6 => exact .entered rest
  | @gre flags field type =>
    have pos : 0 < GreHeader.lengthOf flags := Nat.succ_pos _
    have datagram : Finds data found levels more
        (etherType (.ofValue version.etherType) data (offset + GreHeader.lengthOf flags)) := by
      rw [etherType_version]
      exact rest
    show Finds data found (levels + 1) (more + 1) (Reading.gre data offset)
    rw [gre_of_fields roomy field type captured]
    exact .behind .header captured (show offset < found.offset by omega) (.entered datagram)
  | @bridged flags headers inner field type frame =>
    have pos : 0 < GreHeader.lengthOf flags := Nat.succ_pos _
    have start := frame.lt
    have header : offset + GreHeader.lengthOf flags ≤ data.size := by omega
    -- The frame takes a level of its own, behind that of the payload of the GRE header.
    have bridged := frame.finds roomy captured front rest
    show Finds data found (levels + 2) (more + headers + 1) (Reading.gre data offset)
    rw [gre_of_fields roomy field type header]
    exact .behind .header header (show offset < found.offset by omega) (.entered (.entered bridged))

/-- The innermost header of nested datagrams is found. -/
theorem Octets.Nest.finds {version : IpVersion} {offset headers : Nat} {carriers : List Carrier}
    (nest : data.Nest version offset carriers headers found) :
    Finds data found (carriers.length + carriers.count .bridged) headers
      (ipOf data offset version) := by
  induction nest with
  | @innermost version offset protocol plain =>
    obtain ⟨step, parent, finds, reading⟩ := plain.exists_step roomy
    rw [reading]
    exact .here finds plain.header_captured
  | @carries version inner offset innerOffset headers more protocol carrier carriers innermost plain
      carried rest ih =>
    obtain ⟨step, parent, finds, reading⟩ := plain.exists_step roomy
    obtain ⟨whole, front⟩ := rest.start
    have behind := carried.le
    have before : (version.header offset).offset < innermost.offset := by
      have pos : 0 < version.headerLength := by cases version <;> decide
      rw [IpVersion.offset_header]
      omega
    rw [reading, Carrier.levels_cons]
    exact .behind finds plain.header_captured before
      (carried.finds roomy (by omega) front ih parent)

end Finds

end FrameSpans
