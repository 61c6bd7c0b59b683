import FrameSpans.Error
import FrameSpans.Octets
import FrameSpans.ProtocolId

/-!
# Spans and their words

A span says which octets of a capture hold which header. In a record table it is one word: the
offset in the low 13 bits, the length in the next 12, the id in the upper 7. A span whose offset or
length does not fit has no word; every word is the word of some span.
-/

namespace FrameSpans

/-- A header or option found at some octets of the capture. -/
structure Span where
  /-- The protocol, option or extension header found. -/
  id : ProtocolId
  /-- The position of its first octet. -/
  offset : Nat
  /-- The number of its octets. -/
  length : Nat
  deriving DecidableEq, Repr

namespace Span

/-- The greatest offset a span word holds. -/
def maxOffset : Nat := 8191

/-- The greatest length a span word holds. -/
def maxLength : Nat := 4095

/-- The number of octets of a span word in a descriptor. -/
def wordSize : Nat := 4

/-- The first position behind the span, if an offset can hold it. -/
def end? (span : Span) : Option Nat :=
  if span.offset + span.length < offsetBound then some (span.offset + span.length) else none

/-- The word of a span. -/
def encode (span : Span) : Except Error UInt32 :=
  if maxOffset < span.offset ∨ maxLength < span.length then .error .overflow
  else .ok (UInt32.ofNat span.id.raw <<< 25 ||| UInt32.ofNat span.length <<< 13
    ||| UInt32.ofNat span.offset)

/-- The span of a word. -/
def decode (word : UInt32) : Span where
  id := .ofRaw (word >>> 25).toNat
  offset := (word &&& 0x1fff).toNat
  length := (word >>> 13 &&& 0xfff).toNat

/-- The ordinal of the id in a span word. -/
def decodeOrdinal (word : UInt32) : UInt8 :=
  (word >>> 25 &&& 0x1f).toUInt8

/-- The text shown for a span: its name, its offset and its length. -/
def describe (span : Span) : String :=
  span.id.name ++ "@" ++ toString span.offset ++ "+" ++ toString span.length

end Span

end FrameSpans
