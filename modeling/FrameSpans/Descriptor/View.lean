import FrameSpans.Descriptor.Header
import FrameSpans.Descriptor.Layout

/-!
# Reading descriptors

A `Descriptor` is a string of octets that holds a header and all the span words that the header
announces, and nothing behind them. `Descriptor.ofOctets` checks for this once; the accessors then
always find what they read.
-/

namespace FrameSpans

/-- The octets of a descriptor and the byte order of its words. -/
structure Descriptor where
  /-- The octets. -/
  octets : Octets
  /-- The byte order of the words. -/
  endian : Endian
  deriving DecidableEq, Repr

namespace Descriptor

/-- The word at an octet, if all of it is there. -/
def word? (descriptor : Descriptor) (offset : Nat) : Option UInt32 :=
  descriptor.octets.stored32? descriptor.endian offset

/-- The value of a field. -/
def field (descriptor : Descriptor) (field : BitField) : UInt32 :=
  field.unpack ((descriptor.word? field.word).getD 0)

/-- The value of a field of one bit. -/
def flag (descriptor : Descriptor) (flag : BitField) : Bool :=
  descriptor.field flag != 0

/-- The number of span words. -/
def recordCount (descriptor : Descriptor) : Nat :=
  (descriptor.field Layout.recordCount).toNat

/-- The descriptor at the start of a string of octets. Octets behind it are dropped. -/
def ofOctets (octets : Octets) (endian : Endian) : Except Error Descriptor :=
  if octets.size < Layout.headerSize then .error .truncated
  else
    let size := Layout.size (recordCount ⟨octets, endian⟩)
    if octets.size < size then .error .truncated
    else .ok ⟨octets.extract 0 size, endian⟩

/-- The number of octets of the descriptor. -/
def size (descriptor : Descriptor) : Nat :=
  descriptor.octets.size

/-- The timestamp. -/
def timestamp (descriptor : Descriptor) : UInt64 :=
  (descriptor.octets.stored64? descriptor.endian Layout.timestampAt).getD 0

/-- The control flags. -/
def txFlags (descriptor : Descriptor) : TxFlags where
  now := descriptor.flag Layout.txNow
  ignore := descriptor.flag Layout.txIgnore
  crcOverride := descriptor.flag Layout.txCrcOverride
  setClock := descriptor.flag Layout.txSetClock

/-- All scalars. -/
def header (descriptor : Descriptor) : Header where
  timestamp := descriptor.timestamp
  captureLength := (descriptor.field Layout.captureLength).toUInt16
  wireLength := (descriptor.field Layout.wireLength).toUInt16
  rxPort := (descriptor.field Layout.rxPort).toUInt8
  txPort := (descriptor.field Layout.txPort).toUInt8
  txFlags := descriptor.txFlags
  l2Type := .ofValue (descriptor.field Layout.l2Type).toUInt8
  hash := descriptor.field Layout.hash
  hashType := (descriptor.field Layout.hashType).toUInt8
  isFragment := descriptor.flag Layout.isFragment
  isLastFragment := descriptor.flag Layout.isLastFragment
  bitmask := ⟨descriptor.field Layout.bitmask⟩

/-- The span at an index of the table. -/
def span? (descriptor : Descriptor) (index : Nat) : Option Span :=
  if index < descriptor.recordCount then
    (descriptor.word? (Layout.headerSize + index * Span.wordSize)).map .decode
  else none

/-- The words from an octet on, as long as they are complete. -/
def wordsFrom (descriptor : Descriptor) (offset : Nat) : List UInt32 :=
  if offset < descriptor.octets.size then
    match descriptor.word? offset with
    | some word => word :: descriptor.wordsFrom (offset + Span.wordSize)
    | none => []
  else []
termination_by descriptor.octets.size - offset
decreasing_by
  simp only [Span.wordSize]
  omega

/-- The spans in the order of the table. -/
def spans (descriptor : Descriptor) : List Span :=
  (descriptor.wordsFrom Layout.headerSize).map .decode

end Descriptor

/-! ## One span after the other -/

namespace SpanCursor

end SpanCursor

end FrameSpans
