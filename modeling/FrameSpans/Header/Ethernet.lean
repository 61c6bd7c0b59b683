import FrameSpans.Octets
import FrameSpans.Tag.EtherType

/-!
# Link layer headers

An Ethernet header has fourteen octets. A type field of at most 1500 is a length: the frame is an
802.3 frame, and the octets behind its header tell whether it carries IPX directly or starts with an
LLC header. Otherwise the field is an ethertype, and VLAN tags of four octets may stand between the
header and the payload; `TaggedType.unwrap` follows them to the type of the payload.
-/

namespace FrameSpans

/-- The fields of an Ethernet header and the two octets behind it. -/
structure EthernetHeader where
  /-- Destination address. -/
  destination : Octets
  /-- Source address. -/
  source : Octets
  /-- The ethertype of the payload, or the length of an 802.3 frame. -/
  typeOrLength : UInt16
  /-- The destination and source service access points of an LLC header, if captured. -/
  accessPoints : Option (UInt8 × UInt8)
  /-- Whether the octets behind the header mark a frame that carries IPX directly. -/
  isNovellRaw : Bool
  /-- The number of octets captured from the start of the header on. -/
  captured : Nat
  deriving DecidableEq, Repr

namespace EthernetHeader

/-- The number of octets of an Ethernet header without tags. -/
def size : Nat := 14

/-- The number of octets of a VLAN tag. -/
def tagSize : Nat := 4

/-- Whether the type field is a length. -/
def is8023 (header : EthernetHeader) : Bool :=
  header.typeOrLength ≤ 1500

/-- Reads the header at `offset`. -/
def read (data : Octets) (offset : Nat) : Except Stop EthernetHeader := do
  data.require offset size
  let destination ← data.slice offset 6
  let source ← data.slice (offset + 6) 6
  let typeOrLength ← data.word16 (offset + 12)
  let accessPoints :=
    match data.octet? (offset + 14), data.octet? (offset + 15) with
    | some dsap, some ssap => some (dsap, ssap)
    | _, _ => none
  let isNovellRaw := data.word16? (offset + 14) == some 0xffff
  return { destination, source, typeOrLength, accessPoints, isNovellRaw,
           captured := data.captured offset }

end EthernetHeader

/-- The type of a payload behind VLAN tags. -/
structure TaggedType where
  /-- The type behind the last tag that was captured. -/
  etherType : EtherType
  /-- The octets of the Ethernet header and of the tags that were captured. -/
  length : Nat
  /-- Whether the last tag was captured: the type then is that of the payload. -/
  complete : Bool
  deriving DecidableEq, Repr

/-- Follows VLAN tags, `length` octets of header being read and `etherType` being the type field
at their end. Each tag holds its control information and the type of what follows it. -/
def TaggedType.unwrap (data : Octets) (offset length : Nat) (etherType : EtherType) :
    Except Stop TaggedType :=
  if etherType.isTag then
    match _found : advance offset (length + 2) with
    | .error stop => .error stop
    | .ok inner =>
      match _captured : data.word16? inner with
      | some type =>
        unwrap data offset (length + EthernetHeader.tagSize) (.ofValue type)
      | none => .ok ⟨etherType, length, false⟩
  else .ok ⟨etherType, length, true⟩
termination_by data.size - (offset + length)
decreasing_by
  have := eq_add_of_advance _found
  have := Octets.lt_size_of_word16? _captured
  simp only [EthernetHeader.tagSize]
  omega

/-- The number of octets of an LLC header. -/
def llcSize : Nat := 3

/-- The number of octets of a SNAP header. -/
def snapSize : Nat := 5

/-- The position of the ethertype in a SNAP header, behind the organisation code. -/
def snapTypeAt : Nat := 3

/-- The service access point of a SNAP header. -/
def sapSnap : UInt8 := 0xaa

/-- The service access point of an IPX header. -/
def sapIpx : UInt8 := 0xe0

/-! ## ARP -/

/-- The fixed fields of an ARP packet. -/
structure ArpHeader where
  /-- Hardware type. -/
  hardwareType : UInt16
  /-- Protocol type. -/
  protocolType : UInt16
  /-- The number of octets of a hardware address. -/
  hardwareLength : UInt8
  /-- The number of octets of a protocol address. -/
  protocolLength : UInt8
  /-- Operation. -/
  operation : UInt16
  deriving DecidableEq, Repr

namespace ArpHeader

/-- The number of octets of the fixed fields. -/
def size : Nat := 8

/-- The length of the packet with both pairs of addresses. -/
def packetLength (header : ArpHeader) : Nat :=
  size + 2 * (header.hardwareLength.toNat + header.protocolLength.toNat)

/-- Reads the fixed fields at `offset`. -/
def read (data : Octets) (offset : Nat) : Except Stop ArpHeader := do
  data.require offset size
  let hardwareType ← data.word16 offset
  let protocolType ← data.word16 (offset + 2)
  let hardwareLength ← data.octet (offset + 4)
  let protocolLength ← data.octet (offset + 5)
  let operation ← data.word16 (offset + 6)
  return { hardwareType, protocolType, hardwareLength, protocolLength, operation }

end ArpHeader

end FrameSpans
