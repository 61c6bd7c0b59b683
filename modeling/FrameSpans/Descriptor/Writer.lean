import FrameSpans.Descriptor.Header
import FrameSpans.Descriptor.Layout

/-!
# Writing descriptors

There are two ways to write a descriptor into a buffer. `Descriptor.writePacked` forms each word of
the header at once. `Descriptor.writeFields` clears the header and then sets one field after the
other with a `FieldWriter`, which changes no bit outside the field it sets. Either way a descriptor
that does not fit leaves the buffer alone.
-/

namespace FrameSpans

/-- The bit that stands for a truth value. -/
def flagBit (b : Bool) : UInt32 :=
  if b then 1 else 0

/-! ## Field by field -/

/-- A buffer into which the fields of a descriptor are written. -/
structure FieldWriter where
  /-- The buffer. -/
  out : Octets
  /-- The byte order of the descriptor. -/
  endian : Endian
  deriving DecidableEq, Repr

/-- A value for a field, or for several fields that are set together. -/
inductive Setting
  /-- Sets the timestamp. -/
  | timestamp (value : UInt64)
  /-- Sets the captured length. -/
  | captureLength (value : UInt16)
  /-- Sets the receive port. -/
  | rxPort (value : UInt8)
  /-- Sets the transmit port. -/
  | txPort (value : UInt8)
  /-- Sets the wire length. -/
  | wireLength (value : UInt16)
  /-- Sets all four control flags. -/
  | txFlags (value : TxFlags)
  /-- Sets the framing. -/
  | l2Type (value : L2Type)
  /-- Sets the hash type. -/
  | hashType (value : UInt8)
  /-- Sets the number of span words, without writing any. -/
  | recordCount (value : UInt8)
  /-- Sets both fragmentation flags. -/
  | fragment (isFragment isLast : Bool)
  /-- Sets the hash. -/
  | hash (value : UInt32)
  /-- Sets the protocols. -/
  | bitmask (value : Bitmask)
  deriving DecidableEq, Repr

namespace FieldWriter

/-- A writer on a buffer, whose header it clears. -/
def ofBuffer (out : Octets) (endian : Endian) : Except Error FieldWriter :=
  if out.size < Layout.headerSize then .error .exhausted
  else .ok ⟨out.put 0 (List.replicate Layout.headerSize 0), endian⟩

/-- Sets one field and leaves the rest of its word alone. -/
def setField (writer : FieldWriter) (field : BitField) (value : UInt32) : FieldWriter :=
  match writer.out.stored32? writer.endian field.word with
  | some word =>
    { writer with out := writer.out.put32 writer.endian field.word (field.replace word value) }
  | none => writer

/-- Sets what a setting is about. -/
def set (writer : FieldWriter) : Setting → FieldWriter
  | .timestamp value =>
    { writer with out := writer.out.put64 writer.endian Layout.timestampAt value }
  | .captureLength value => writer.setField Layout.captureLength value.toUInt32
  | .rxPort value => writer.setField Layout.rxPort value.toUInt32
  | .txPort value => writer.setField Layout.txPort value.toUInt32
  | .wireLength value => writer.setField Layout.wireLength value.toUInt32
  | .txFlags flags =>
    let now := writer.setField Layout.txNow (flagBit flags.now)
    let ignore := now.setField Layout.txIgnore (flagBit flags.ignore)
    let crcOverride := ignore.setField Layout.txCrcOverride (flagBit flags.crcOverride)
    crcOverride.setField Layout.txSetClock (flagBit flags.setClock)
  | .l2Type value => writer.setField Layout.l2Type value.value.toUInt32
  | .hashType value => writer.setField Layout.hashType value.toUInt32
  | .recordCount value => writer.setField Layout.recordCount value.toUInt32
  | .fragment isFragment isLast =>
    let fragment := writer.setField Layout.isFragment (flagBit isFragment)
    fragment.setField Layout.isLastFragment (flagBit isLast)
  | .hash value => writer.setField Layout.hash value
  | .bitmask value => writer.setField Layout.bitmask value.bits

/-- Writes span words behind the header and sets their number. Gives the size of the descriptor. -/
def setRecords (writer : FieldWriter) (records : List UInt32) :
    FieldWriter × Except Error Nat :=
  match Layout.checkedSize records writer.out with
  | .error error => (writer, .error error)
  | .ok size =>
    let written := writer.out.putWords writer.endian Layout.headerSize records
    (({ writer with out := written } : FieldWriter).set
      (.recordCount (UInt8.ofNat records.length)), .ok size)

end FieldWriter

namespace Descriptor

/-- The settings that write a header, the number of records apart. -/
def settings (header : Header) : List Setting :=
  [.timestamp header.timestamp, .captureLength header.captureLength, .rxPort header.rxPort,
    .txPort header.txPort, .wireLength header.wireLength, .txFlags header.txFlags,
    .l2Type header.l2Type, .hashType header.hashType,
    .fragment header.isFragment header.isLastFragment, .hash header.hash, .bitmask header.bitmask]

/-- Writes a descriptor field by field. Gives its size and the buffer. -/
def writeFields (header : Header) (records : List UInt32) (out : Octets) (endian : Endian) :
    Except Error Nat × Octets :=
  match Layout.checkedSize records out with
  | .error error => (.error error, out)
  | .ok _ =>
    match FieldWriter.ofBuffer out endian with
    | .error error => (.error error, out)
    | .ok writer =>
      let (written, result) := ((settings header).foldl FieldWriter.set writer).setRecords records
      (result, written.out)

/-! ## Word by word -/

/-- The word at octet 8. -/
def captureWord (header : Header) : UInt32 :=
  Layout.captureLength.pack header.captureLength.toUInt32
    ||| Layout.rxPort.pack header.rxPort.toUInt32
    ||| Layout.txPort.pack header.txPort.toUInt32

/-- The word at octet 12. -/
def wireWord (header : Header) (records : Nat) : UInt32 :=
  Layout.wireLength.pack header.wireLength.toUInt32
    ||| Layout.txNow.pack (flagBit header.txFlags.now)
    ||| Layout.txIgnore.pack (flagBit header.txFlags.ignore)
    ||| Layout.txCrcOverride.pack (flagBit header.txFlags.crcOverride)
    ||| Layout.txSetClock.pack (flagBit header.txFlags.setClock)
    ||| Layout.l2Type.pack header.l2Type.value.toUInt32
    ||| Layout.recordCount.pack (UInt32.ofNat records)

/-- The word at octet 16. -/
def hashWord (header : Header) : UInt32 :=
  Layout.hash.pack header.hash
    ||| Layout.hashType.pack header.hashType.toUInt32
    ||| Layout.isFragment.pack (flagBit header.isFragment)
    ||| Layout.isLastFragment.pack (flagBit header.isLastFragment)

/-- Writes a descriptor word by word. Gives its size and the buffer. -/
def writePacked (header : Header) (records : List UInt32) (out : Octets) (endian : Endian) :
    Except Error Nat × Octets :=
  match Layout.checkedSize records out with
  | .error error => (.error error, out)
  | .ok size =>
    -- The words of the header follow the timestamp, and the span words follow them.
    let stamped := out.put64 endian Layout.timestampAt header.timestamp
    let words := [captureWord header, wireWord header records.length, hashWord header,
      header.bitmask.bits]
    (.ok size, stamped.putWords endian 8 (words ++ records))

end Descriptor

end FrameSpans
