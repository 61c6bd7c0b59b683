import FrameSpans.Octets

/-!
# Tunnel headers

The headers of VXLAN (RFC 7348), Geneve (RFC 8926) and ESP (RFC 4303). Of an ESP packet only the
identifier and the sequence number are readable, the rest is encrypted.
-/

namespace FrameSpans

/-- The fields of a VXLAN header. -/
structure VxlanHeader where
  /-- Flags. -/
  flags : UInt8
  /-- Network identifier. -/
  networkId : UInt32
  deriving DecidableEq, Repr

namespace VxlanHeader

/-- The number of octets of the header. -/
def size : Nat := 8

/-- Whether the header announces a valid network identifier. -/
def hasNetworkId (header : VxlanHeader) : Bool :=
  header.flags &&& 0x08 != 0

/-- Reads the header at `offset`. -/
def read (data : Octets) (offset : Nat) : Except Stop VxlanHeader := do
  data.require offset size
  let flags ← data.octet offset
  let networkId ← data.word24 (offset + 4)
  return { flags, networkId }

end VxlanHeader

/-- The fixed fields of a Geneve header. -/
structure GeneveHeader where
  /-- Version. -/
  version : UInt8
  /-- The length of the options, in units of four octets. -/
  optionUnits : UInt8
  /-- Flags. -/
  flags : UInt8
  /-- The ethertype of the payload. -/
  protocolType : UInt16
  /-- Network identifier. -/
  networkId : UInt32
  deriving DecidableEq, Repr

namespace GeneveHeader

/-- The number of octets of a header without options. -/
def size : Nat := 8

/-- Whether the packet carries control traffic. -/
def isControl (header : GeneveHeader) : Bool :=
  header.flags &&& 0x80 != 0

/-- The length of the header with its options. -/
def headerLength (header : GeneveHeader) : Nat :=
  size + 4 * header.optionUnits.toNat

/-- Reads the fixed fields at `offset`. -/
def read (data : Octets) (offset : Nat) : Except Stop GeneveHeader := do
  data.require offset size
  let first ← data.octet offset
  let flags ← data.octet (offset + 1)
  let protocolType ← data.word16 (offset + 2)
  let networkId ← data.word24 (offset + 4)
  return { version := first >>> 6, optionUnits := first &&& 0x3f, flags, protocolType, networkId }

end GeneveHeader

/-- The readable fields of an ESP packet. -/
structure EspHeader where
  /-- Security parameters index. -/
  index : UInt32
  /-- Sequence number. -/
  sequenceNumber : UInt32
  deriving DecidableEq, Repr

namespace EspHeader

/-- The number of octets of the readable fields. -/
def size : Nat := 8

/-- Reads the header at `offset`. -/
def read (data : Octets) (offset : Nat) : Except Stop EspHeader := do
  data.require offset size
  let index ← data.word32 offset
  let sequenceNumber ← data.word32 (offset + 4)
  return { index, sequenceNumber }

end EspHeader

end FrameSpans
