import FrameSpans.Error

/-!
# Octet strings

A capture and a descriptor are strings of octets. Positions in them are natural numbers; because an
offset is held in 64 bits, a sum of positions is formed with `advance`, which faults at
`offsetBound`. The accessors come in two forms: those that end in a question mark answer `none`
where nothing was captured, the others belong behind a `require` and fault where it was forgotten.

Fields of a packet are read in network byte order. A descriptor is stored in the byte order its
consumer asks for, `Endian`, word by word.
-/

namespace FrameSpans

/-- A string of octets. -/
abbrev Octets := Array UInt8

/-- The first number that is not an offset: offsets and lengths are held in 64 bits. -/
def offsetBound : Nat := 1 <<< 64

/-- The position `length` octets behind `offset`, a fault when no offset can hold it. -/
def advance (offset length : Nat) : Except Stop Nat :=
  if offset + length < offsetBound then .ok (offset + length) else .error .fault

/-- A position that `advance` gives is the sum. -/
theorem eq_add_of_advance {offset length next : Nat} (h : advance offset length = .ok next) :
    next = offset + length := by
  unfold advance at h
  split at h
  · exact (Except.ok.inj h).symm
  · cases h

/-! ## Words -/

/-- A 16-bit word from its octets, the most significant first. -/
def word16 (b1 b0 : UInt8) : UInt16 :=
  b1.toUInt16 <<< 8 ||| b0.toUInt16

/-- A 32-bit word from its octets, the most significant first. -/
def word32 (b3 b2 b1 b0 : UInt8) : UInt32 :=
  b3.toUInt32 <<< 24 ||| b2.toUInt32 <<< 16 ||| b1.toUInt32 <<< 8 ||| b0.toUInt32

/-- A 64-bit word from its two halves. -/
def word64 (high low : UInt32) : UInt64 :=
  high.toUInt64 <<< 32 ||| low.toUInt64

/-- The byte order of the words of a descriptor. -/
inductive Endian
  /-- The most significant octet is first. -/
  | big
  /-- The least significant octet is first. -/
  | little
  deriving DecidableEq, Repr

namespace Endian

/-- The byte order of the machines this library is built for. -/
def native : Endian := .little

/-- The name shown for a byte order. -/
def name : Endian → String
  | .big => "Big"
  | .little => "Little"

/-- The four octets of a word, in the order in which they are stored. -/
def octets32 (endian : Endian) (word : UInt32) : List UInt8 :=
  let ascending := [word.toUInt8, (word >>> 8).toUInt8, (word >>> 16).toUInt8, (word >>> 24).toUInt8]
  match endian with
  | .big => ascending.reverse
  | .little => ascending

/-- The eight octets of a long word, in the order in which they are stored. -/
def octets64 (endian : Endian) (word : UInt64) : List UInt8 :=
  let high := (word >>> 32).toUInt32
  let low := word.toUInt32
  match endian with
  | .big => octets32 .big high ++ octets32 .big low
  | .little => octets32 .little low ++ octets32 .little high

end Endian

namespace Octets

/-! ## Reading -/

/-- How many octets were captured from `offset` on. -/
def captured (data : Octets) (offset : Nat) : Nat :=
  data.size - offset

/-- Stops unless `length` octets were captured from `offset` on. -/
def require (data : Octets) (offset length : Nat) : Except Stop Unit :=
  if data.captured offset < length then .error .truncated else .ok ()

/-- The position behind a header of `length` octets at `offset` that was captured completely. -/
def behind (data : Octets) (offset length : Nat) : Except Stop Nat :=
  match data.require offset length with
  | .error stop => .error stop
  | .ok () => advance offset length

/-- The octet at `offset`, if it was captured. -/
def octet? (data : Octets) (offset : Nat) : Option UInt8 :=
  data[offset]?

/-- The 16-bit field at `offset`, if it was captured. -/
def word16? (data : Octets) (offset : Nat) : Option UInt16 :=
  match data[offset]?, data[offset + 1]? with
  | some b1, some b0 => some (word16 b1 b0)
  | _, _ => none

/-- A 16-bit field that was captured ends within the capture. -/
theorem lt_size_of_word16? {data : Octets} {offset : Nat} {word : UInt16}
    (h : data.word16? offset = some word) : offset + 1 < data.size := by
  unfold word16? at h
  split at h
  · next high => exact (Array.getElem?_eq_some_iff.mp high).1
  · cases h

/-- The octet at `offset`. -/
def octet (data : Octets) (offset : Nat) : Except Stop UInt8 :=
  match data[offset]? with
  | some b => .ok b
  | none => .error .fault

/-- The 16-bit field at `offset`. -/
def word16 (data : Octets) (offset : Nat) : Except Stop UInt16 := do
  let b1 ← data.octet offset
  let b0 ← data.octet (offset + 1)
  return FrameSpans.word16 b1 b0

/-- The 24-bit field at `offset`. -/
def word24 (data : Octets) (offset : Nat) : Except Stop UInt32 := do
  let b2 ← data.octet offset
  let b1 ← data.octet (offset + 1)
  let b0 ← data.octet (offset + 2)
  return FrameSpans.word32 0 b2 b1 b0

/-- The 32-bit field at `offset`. -/
def word32 (data : Octets) (offset : Nat) : Except Stop UInt32 := do
  let b3 ← data.octet offset
  let b2 ← data.octet (offset + 1)
  let b1 ← data.octet (offset + 2)
  let b0 ← data.octet (offset + 3)
  return FrameSpans.word32 b3 b2 b1 b0

/-- The `length` octets at `offset`. -/
def slice (data : Octets) (offset length : Nat) : Except Stop Octets :=
  if data.captured offset < length then .error .fault
  else .ok (data.extract offset (offset + length))

/-- The first `length` octets, or all of them when there are fewer. -/
def upTo (data : Octets) (length : Nat) : Octets :=
  data.extract 0 (min data.size length)

/-! ## Words in a byte order -/

/-- The 32-bit word stored at `offset`, if all of it is there. -/
def stored32? (data : Octets) (endian : Endian) (offset : Nat) : Option UInt32 :=
  match data[offset]?, data[offset + 1]?, data[offset + 2]?, data[offset + 3]? with
  | some a, some b, some c, some d =>
    match endian with
    | .big => some (FrameSpans.word32 a b c d)
    | .little => some (FrameSpans.word32 d c b a)
  | _, _, _, _ => none

/-- The 64-bit word stored at `offset`, if all of it is there. -/
def stored64? (data : Octets) (endian : Endian) (offset : Nat) : Option UInt64 :=
  match data.stored32? endian offset, data.stored32? endian (offset + 4) with
  | some first, some second =>
    match endian with
    | .big => some (word64 first second)
    | .little => some (word64 second first)
  | _, _ => none

/-- Overwrites the octets from `offset` on; what does not fit is dropped. -/
def put (out : Octets) (offset : Nat) : List UInt8 → Octets
  | [] => out
  | b :: rest => put (out.setIfInBounds offset b) (offset + 1) rest

/-- Stores a 32-bit word at `offset`. -/
def put32 (out : Octets) (endian : Endian) (offset : Nat) (word : UInt32) : Octets :=
  out.put offset (endian.octets32 word)

/-- Stores a 64-bit word at `offset`. -/
def put64 (out : Octets) (endian : Endian) (offset : Nat) (word : UInt64) : Octets :=
  out.put offset (endian.octets64 word)

/-- Stores 32-bit words one behind the other from `offset` on. -/
def putWords (out : Octets) (endian : Endian) (offset : Nat) : List UInt32 → Octets
  | [] => out
  | word :: rest => putWords (out.put32 endian offset word) endian (offset + 4) rest

/-- Overwriting keeps the size. -/
@[simp] theorem size_put (out : Octets) (offset : Nat) (bytes : List UInt8) :
    (out.put offset bytes).size = out.size := by
  induction bytes generalizing out offset with
  | nil => rfl
  | cons b rest ih => simp [put, ih]

/-- Storing a word keeps the size. -/
@[simp] theorem size_put32 (out : Octets) (endian : Endian) (offset : Nat) (word : UInt32) :
    (out.put32 endian offset word).size = out.size :=
  size_put ..

/-- Storing a long word keeps the size. -/
@[simp] theorem size_put64 (out : Octets) (endian : Endian) (offset : Nat) (word : UInt64) :
    (out.put64 endian offset word).size = out.size :=
  size_put ..

/-- Storing words keeps the size. -/
@[simp] theorem size_putWords (out : Octets) (endian : Endian) (offset : Nat) (words : List UInt32) :
    (out.putWords endian offset words).size = out.size := by
  induction words generalizing out offset with
  | nil => rfl
  | cons word rest ih => simp [putWords, ih]

end Octets

end FrameSpans
