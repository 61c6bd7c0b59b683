import FrameSpans.Octets
import FrameSpans.Span
import FrameSpans.Tag.EtherType
import FrameSpans.Tag.Icmpv6
import FrameSpans.Tag.L2Type

/-!
# Readings

A packet is read level by level. One level starts at a link layer or IP header and goes on to the
last header before an encapsulated packet. Reading a level needs the captured octets and nothing
else: what comes out is a `Reading`, the steps to take in order and how the level ends. Which spans
find room in the table, whether options are recorded and what handlers do is decided by whoever takes
the steps, and none of it changes the reading.

A level ends in exactly one of four ways, and each way that goes on (`Ending.encapsulated`,
`Ending.consult`) comes after every step of the level.
-/

namespace FrameSpans

/-- Where the reading of a level starts. -/
inductive Entry
  /-- An Ethernet frame. -/
  | ethernet
  /-- The payload of a link layer header of the given type. -/
  | etherType (type : EtherType)
  /-- An IP datagram of either version. -/
  | ip
  /-- An IPv4 datagram. -/
  | ipv4
  /-- An IPv6 datagram. -/
  | ipv6
  deriving DecidableEq, Repr

/-- What handlers are asked about the octets behind a header. -/
inductive Inquiry
  /-- The payload of a transport header with these ports. -/
  | ports (source destination : UInt16)
  /-- A payload whose type, an ethertype or an IP protocol, has no built-in handling. -/
  | nextHeader (value : UInt16)
  deriving DecidableEq, Repr

/-- A header that is left alone, and why. -/
inductive Remark
  /-- An octet that should start an IP datagram has neither version. -/
  | noIpVersion (first : UInt8) (offset : Nat)
  /-- An IPv4 header tells a length below that of its fixed part. -/
  | ipv4HeaderLength (length offset : Nat)
  /-- A TCP header tells a length below that of its fixed part. -/
  | tcpHeaderLength (length offset : Nat)
  /-- An ICMPv6 message has a type whose layout is not known. -/
  | icmpv6Type (type : Icmpv6Type) (offset : Nat)
  deriving DecidableEq, Repr

/-- What is found inside an IP header besides the header itself. -/
inductive Mark
  /-- An option or extension header, recorded if the policy asks for it. -/
  | option (span : Span)
  /-- The datagram is a fragment, perhaps the last one. -/
  | fragment (isLast : Bool)
  deriving DecidableEq, Repr

/-- One step of a reading. -/
inductive Step
  /-- A header was found. -/
  | header (span : Span)
  /-- A part of the header before was found. -/
  | mark (mark : Mark)
  /-- A header was found with a chain of extension headers: the header is recorded first, then the
  marks of the chain, and when the chain is not empty the span of the header is widened by its
  length. -/
  | chained (base : Span) (marks : List Mark) (length : Nat)
  /-- The framing of the link layer was found. -/
  | framing (type : L2Type)
  /-- The payload of an IP header starts here. -/
  | payload (protocol : IpProtocol) (offset : Nat) (parent : ProtocolId)
  /-- A header was left alone. -/
  | remark (remark : Remark)
  deriving DecidableEq, Repr

/-- How a level ends. -/
inductive Ending
  /-- There is nothing more to read. -/
  | complete
  /-- Reading stopped within a header. -/
  | stopped (stop : Stop)
  /-- An encapsulated packet starts at `offset`, one level deeper. -/
  | encapsulated (entry : Entry) (offset : Nat)
  /-- The handlers registered under `id` are asked about the octets from `offset` on. -/
  | consult (id : ProtocolId) (offset : Nat) (inquiry : Inquiry)
  deriving DecidableEq, Repr

/-- The reading of a level. -/
structure Reading where
  /-- What was found, in order. -/
  steps : List Step
  /-- How the level ends. -/
  ending : Ending
  deriving DecidableEq, Repr

namespace Reading

/-- The reading that finds nothing and ends. -/
def ends (ending : Ending) : Reading := ⟨[], ending⟩

/-- The reading that finds nothing more to read. -/
def complete : Reading := ends .complete

/-- The reading that stops. -/
def stopped (stop : Stop) : Reading := ends (.stopped stop)

/-- Steps in front of a reading. -/
def after (steps : List Step) (rest : Reading) : Reading :=
  { rest with steps := steps ++ rest.steps }

/-- Goes on with a result, or stops where there is none. -/
def attempt {α : Type} (result : Except Stop α) (next : α → Reading) : Reading :=
  match result with
  | .ok value => next value
  | .error stop => stopped stop

/-- A result is what the reading goes on with. -/
@[simp] theorem attempt_ok {α : Type} (value : α) (next : α → Reading) :
    attempt (.ok value) next = next value := rfl

/-- Without a result the reading stops. -/
@[simp] theorem attempt_error {α : Type} (stop : Stop) (next : α → Reading) :
    attempt (.error stop) next = stopped stop := rfl

/-- The steps of a reading behind other steps. -/
@[simp] theorem steps_after (steps : List Step) (rest : Reading) :
    (after steps rest).steps = steps ++ rest.steps := rfl

/-- Steps in front of a reading leave its ending alone. -/
@[simp] theorem ending_after (steps : List Step) (rest : Reading) :
    (after steps rest).ending = rest.ending := rfl

end Reading

end FrameSpans
