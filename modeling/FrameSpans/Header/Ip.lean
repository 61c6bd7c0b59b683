import FrameSpans.Octets
import FrameSpans.Tag.Ip

/-!
# IP headers

The fixed part of an IPv4 header has twenty octets, its first octet tells how many there are with
the options. The fixed part of an IPv6 header has forty octets; options of IPv6 are extension
headers, each of which names the next one.
-/

namespace FrameSpans

/-- The fixed fields of an IPv4 header. -/
structure Ipv4Header where
  /-- The version in the first octet. -/
  version : UInt8
  /-- The number of octets of the header with its options, as the header tells. -/
  headerLength : Nat
  /-- The number of octets of the datagram, as the header tells. -/
  totalLength : UInt16
  /-- Whether more fragments of the datagram follow. -/
  moreFragments : Bool
  /-- The position of the fragment within its datagram, in octets. -/
  fragmentOffset : UInt16
  /-- What follows the header. -/
  protocol : IpProtocol
  deriving DecidableEq, Repr

namespace Ipv4Header

/-- The number of octets of a header without options. -/
def size : Nat := 20

/-- Whether the datagram is a fragment of a larger one. -/
def isFragment (header : Ipv4Header) : Bool :=
  header.moreFragments || header.fragmentOffset != 0

/-- Reads the fixed fields at `offset`. -/
def read (data : Octets) (offset : Nat) : Except Stop Ipv4Header := do
  data.require offset size
  let first ← data.octet offset
  let totalLength ← data.word16 (offset + 2)
  let flags ← data.word16 (offset + 6)
  let protocol ← data.octet (offset + 9)
  return { version := first >>> 4
           headerLength := (first &&& 0x0f).toNat * 4
           totalLength
           moreFragments := flags &&& 0x2000 != 0
           fragmentOffset := flags <<< 3
           protocol := .ofValue protocol }

end Ipv4Header

/-- The fixed fields of an IPv6 header. -/
structure Ipv6Header where
  /-- The version in the first octet. -/
  version : UInt8
  /-- The number of octets behind the header, as the header tells. -/
  payloadLength : UInt16
  /-- What follows the header. -/
  nextHeader : IpProtocol
  deriving DecidableEq, Repr

namespace Ipv6Header

/-- The number of octets of the fixed fields. -/
def size : Nat := 40

/-- Reads the fixed fields at `offset`. -/
def read (data : Octets) (offset : Nat) : Except Stop Ipv6Header := do
  data.require offset size
  let first ← data.octet offset
  let payloadLength ← data.word16 (offset + 4)
  let next ← data.octet (offset + 6)
  return { version := first >>> 4, payloadLength, nextHeader := .ofValue next }

end Ipv6Header

/-- The first two octets of an extension header. -/
structure ExtensionHeader where
  /-- What follows the extension header. -/
  nextHeader : IpProtocol
  /-- The number of its octets, as the header tells. -/
  length : Nat
  deriving DecidableEq, Repr

namespace ExtensionHeader

/-- Reads the start of an extension header at `offset`, if it was captured. -/
def read? (data : Octets) (offset : Nat) (form : ExtensionForm) : Option ExtensionHeader :=
  match data.octet? offset, data.octet? (offset + 1) with
  | some next, some units =>
    let length :=
      match form with
      | .fixed => 8
      | .units8 => units.toNat * 8 + 8
    some ⟨.ofValue next, length⟩
  | _, _ => none

/-- The start of an extension header that was read lies within the capture, and the header is not
empty. -/
theorem lt_size_of_read? {data : Octets} {offset : Nat} {form : ExtensionForm}
    {header : ExtensionHeader} (h : read? data offset form = some header) :
    offset < data.size ∧ 0 < header.length := by
  unfold read? at h
  split at h
  · next first second =>
    refine ⟨(Array.getElem?_eq_some_iff.mp first).1, ?_⟩
    rw [← Option.some.inj h]
    dsimp only
    split <;> omega
  · cases h

end ExtensionHeader

/-- The fields of a fragment header that place the fragment in its datagram. -/
structure FragmentFields where
  /-- The position of the fragment within its datagram, in octets. -/
  offset : UInt16
  /-- Whether more fragments of the datagram follow. -/
  more : Bool
  deriving DecidableEq, Repr

/-- Reads the fragment fields of the extension header at `offset`, if they were captured. -/
def FragmentFields.read? (data : Octets) (offset : Nat) : Option FragmentFields :=
  match data.word16? (offset + 2) with
  | some word => some ⟨word &&& 0xfff8, word &&& 1 != 0⟩
  | none => none

end FrameSpans
