import FrameSpans.Octets

/-!
# Transport headers

TCP, UDP and SCTP headers start with a source and a destination port. A TCP header tells its length
with its options, a GRE header announces its optional fields by flags. An ICMP message starts with
its type; IPX headers are recorded without being looked into.
-/

namespace FrameSpans

/-- The source and destination port of a transport header. -/
structure Ports where
  /-- Source port. -/
  source : UInt16
  /-- Destination port. -/
  destination : UInt16
  deriving DecidableEq, Repr

/-- Reads the ports at the start of a transport header whose fixed part has `size` octets. -/
def Ports.read (data : Octets) (offset size : Nat) : Except Stop Ports := do
  data.require offset size
  let source ← data.word16 offset
  let destination ← data.word16 (offset + 2)
  return { source, destination }

/-- The number of octets of a UDP header. -/
def udpSize : Nat := 8

/-- The number of octets of an SCTP common header. -/
def sctpSize : Nat := 12

/-- The number of octets of an IPX header. -/
def ipxSize : Nat := 30

/-- The fixed fields of a TCP header. -/
structure TcpHeader where
  /-- Source and destination port. -/
  ports : Ports
  /-- The number of octets of the header with its options, as the header tells. -/
  headerLength : Nat
  deriving DecidableEq, Repr

namespace TcpHeader

/-- The number of octets of a header without options. -/
def size : Nat := 20

/-- Reads the fixed fields at `offset`. -/
def read (data : Octets) (offset : Nat) : Except Stop TcpHeader := do
  let ports ← Ports.read data offset size
  let words ← data.octet (offset + 12)
  return { ports, headerLength := (words >>> 4).toNat * 4 }

end TcpHeader

/-! ## GRE -/

/-- The fixed fields of a GRE header. -/
structure GreHeader where
  /-- Flags and version. -/
  flags : UInt16
  /-- The ethertype of the payload. -/
  protocolType : UInt16
  deriving DecidableEq, Repr

namespace GreHeader

/-- The number of octets of a header without optional fields. -/
def size : Nat := 4

/-- The flags that announce an optional field: checksum, key and sequence number. -/
def fieldFlags : List UInt16 := [0x8000, 0x2000, 0x1000]

/-- The length of a header with the given flags: each optional field takes four octets. -/
def lengthOf (flags : UInt16) : Nat :=
  (fieldFlags.filter fun flag => flags &&& flag != 0).length * 4 + size

/-- The length of the header with its optional fields. -/
def headerLength (header : GreHeader) : Nat :=
  lengthOf header.flags

/-- Reads the fixed fields at `offset`. -/
def read (data : Octets) (offset : Nat) : Except Stop GreHeader := do
  data.require offset size
  let flags ← data.word16 offset
  let protocolType ← data.word16 (offset + 2)
  return { flags, protocolType }

end GreHeader

/-! ## ICMP -/

/-- The fields that ICMP messages of both versions share. -/
structure IcmpHeader where
  /-- Message type. -/
  type : UInt8
  /-- Message code. -/
  code : UInt8
  /-- The number of octets captured of the message. -/
  captured : Nat
  deriving DecidableEq, Repr

namespace IcmpHeader

/-- The number of octets of the shared header. -/
def size : Nat := 4

/-- The number of octets of an ICMPv4 header with the word behind the shared part. -/
def sizeV4 : Nat := 8

/-- Reads the shared fields at `offset`. -/
def read (data : Octets) (offset : Nat) : Except Stop IcmpHeader := do
  data.require offset size
  let type ← data.octet offset
  let code ← data.octet (offset + 1)
  return { type, code, captured := data.captured offset }

end IcmpHeader

end FrameSpans
