import FrameSpans.Span

/-!
# Layout of a descriptor

A descriptor starts with a header of 24 octets: a 64-bit timestamp and four 32-bit words of bit
fields. Span words follow, at most `maxRecords` of them. All words are stored in the byte order of
the descriptor.

| octets | bits of the word                                                          |
|--------|---------------------------------------------------------------------------|
| 0      | timestamp                                                                 |
| 8      | capture length 0–15, receive port 16–21, transmit port 22–27              |
| 12     | wire length 0–15, send now 16, ignore 17, keep check sequence 18, set     |
|        | clock 19, framing 20–24, record count 26–31                               |
| 16     | hash 0–23, hash type 24–27, fragment 28, last fragment 29                 |
| 20     | protocols 0–31                                                            |
| 24     | span words                                                                |
-/

namespace FrameSpans

/-- The greatest number of spans that a table or a descriptor holds. -/
def maxRecords : Nat := 32

/-- A field of `width` bits from bit `shift` on, in the 32-bit word at octet `word`. -/
structure BitField where
  /-- The position of the word. -/
  word : Nat
  /-- The least significant bit of the field. -/
  shift : UInt32
  /-- The number of bits. -/
  width : UInt32
  deriving DecidableEq, Repr

namespace BitField

/-- The greatest value of the field. -/
def max (field : BitField) : UInt32 :=
  ((1 : UInt64) <<< field.width.toUInt64 - 1).toUInt32

/-- A value at its place in the word, its upper bits dropped. -/
def pack (field : BitField) (value : UInt32) : UInt32 :=
  (value &&& field.max) <<< field.shift

/-- A word with the field set to a value. -/
def replace (field : BitField) (word value : UInt32) : UInt32 :=
  word &&& ~~~(field.max <<< field.shift) ||| field.pack value

/-- The value of the field in a word. -/
def unpack (field : BitField) (word : UInt32) : UInt32 :=
  word >>> field.shift &&& field.max

end BitField

namespace Layout

/-- The position of the timestamp. -/
def timestampAt : Nat := 0

/-- The number of octets of the header, which is also the position of the first span word. -/
def headerSize : Nat := 24

/-- The number of octets of a descriptor with `records` span words. -/
def size (records : Nat) : Nat :=
  headerSize + records * Span.wordSize

/-- The number of octets of the longest descriptor. -/
def maxSize : Nat := size maxRecords

/-- The captured length. -/
def captureLength : BitField := ⟨8, 0, 16⟩
/-- The receive port. -/
def rxPort : BitField := ⟨8, 16, 6⟩
/-- The transmit port. -/
def txPort : BitField := ⟨8, 22, 6⟩

/-- The wire length. -/
def wireLength : BitField := ⟨12, 0, 16⟩
/-- Send at once. -/
def txNow : BitField := ⟨12, 16, 1⟩
/-- Do not send. -/
def txIgnore : BitField := ⟨12, 17, 1⟩
/-- Keep the frame check sequence. -/
def txCrcOverride : BitField := ⟨12, 18, 1⟩
/-- Set the clock. -/
def txSetClock : BitField := ⟨12, 19, 1⟩
/-- The link layer framing. -/
def l2Type : BitField := ⟨12, 20, 5⟩
/-- The number of span words. -/
def recordCount : BitField := ⟨12, 26, 6⟩

/-- The flow hash. -/
def hash : BitField := ⟨16, 0, 24⟩
/-- The hash type. -/
def hashType : BitField := ⟨16, 24, 4⟩
/-- The packet is a fragment. -/
def isFragment : BitField := ⟨16, 28, 1⟩
/-- The packet is the last fragment. -/
def isLastFragment : BitField := ⟨16, 29, 1⟩

/-- The protocols found. -/
def bitmask : BitField := ⟨20, 0, 32⟩

/-- The size of the descriptor for `records` in a buffer: there must not be too many records, and
the buffer must be long enough. -/
def checkedSize (records : List UInt32) (out : Octets) : Except Error Nat :=
  if maxRecords < records.length then .error .overflow
  else if out.size < size records.length then .error .exhausted
  else .ok (size records.length)

end Layout

end FrameSpans
