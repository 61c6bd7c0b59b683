import FrameSpans.Bitmask
import FrameSpans.Tag.L2Type

/-!
# Scalars of a packet

What is known of a packet besides its spans. The lengths stand apart: a dissector knows them exactly,
a descriptor holds sixteen bits of them.
-/

namespace FrameSpans

/-- Control flags for a packet that is handed back to be sent. -/
structure TxFlags where
  /-- Send at once, whatever the timestamp. -/
  now : Bool := false
  /-- Do not send the packet. -/
  ignore : Bool := false
  /-- Keep the frame check sequence of the packet. -/
  crcOverride : Bool := false
  /-- Set the clock of the interface to the timestamp. -/
  setClock : Bool := false
  deriving DecidableEq, Repr

/-- The scalars of a packet except its lengths. Ports, hash and hash type may be wider than the
fields of a descriptor; the upper bits are dropped when they are written. -/
structure Scalars where
  /-- Capture timestamp, in a unit agreed with the consumer. -/
  timestamp : UInt64 := 0
  /-- The port the packet was received on. -/
  rxPort : UInt8 := 0
  /-- The port the packet is to be sent on. -/
  txPort : UInt8 := 0
  /-- Control flags for sending. -/
  txFlags : TxFlags := {}
  /-- Link layer framing. -/
  l2Type : L2Type := .ethernet
  /-- Flow hash. -/
  hash : UInt32 := 0
  /-- The algorithm that computed the hash. -/
  hashType : UInt8 := 0
  /-- The packet is a fragment. -/
  isFragment : Bool := false
  /-- The packet is the last fragment of its datagram. -/
  isLastFragment : Bool := false
  /-- The protocols found. -/
  bitmask : Bitmask := .empty
  deriving DecidableEq, Repr

/-- The scalars of a descriptor. -/
structure Header extends Scalars where
  /-- The number of captured octets. -/
  captureLength : UInt16 := 0
  /-- The number of octets of the packet on the wire. -/
  wireLength : UInt16 := 0
  deriving DecidableEq, Repr

end FrameSpans
