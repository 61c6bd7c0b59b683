import FrameSpans.Header.Ip
import FrameSpans.Reading.Basic

/-!
# Chains of extension headers

Behind the fixed part of an IPv6 header stands a chain of extension headers, each naming the next.
`Chain.follow` walks it to the first header that is not an extension header, or to the end of the
capture. It goes by the lengths that the headers tell: two captured octets are enough to go on, so
the end of a chain may lie beyond the capture.
-/

namespace FrameSpans

/-- A chain of extension headers. -/
structure Chain where
  /-- What follows the chain. -/
  next : IpProtocol
  /-- The number of octets of the chain. -/
  length : Nat
  /-- What was found in the chain, in order. -/
  marks : List Mark
  /-- Whether the last fragment header whose fields were captured has offset zero, or there is no
  such header. -/
  isFirstFragment : Bool
  /-- Whether the chain ended at a header that is not an extension header. -/
  complete : Bool
  deriving DecidableEq, Repr

namespace Chain

/-- What an extension header at `offset` leaves in a reading. A fragment header whose fields were not
captured leaves nothing. -/
def marksOf (data : Octets) (offset : Nat) (type : IpProtocol) (form : ExtensionForm)
    (length : Nat) : List Mark :=
  match form with
  | .fixed =>
    match FragmentFields.read? data offset with
    | some fields => [.fragment !fields.more]
    | none => []
  | .units8 =>
    match ProtocolId.ipv6Extension? type with
    | some id => [.option ⟨id, offset, length⟩]
    | none => []

/-- Whether the datagram still counts as a first fragment behind an extension header at `offset`. -/
def isFirstBehind (data : Octets) (offset : Nat) (form : ExtensionForm) (isFirst : Bool) : Bool :=
  match form with
  | .fixed =>
    match FragmentFields.read? data offset with
    | some fields => fields.offset == 0
    | none => isFirst
  | .units8 => isFirst

/-- Follows the chain that starts at `start`. The first `length` octets of it were walked, and the
next header has type `next`. -/
def follow (data : Octets) (start : Nat) (next : IpProtocol) (length : Nat) (isFirst : Bool) :
    Except Stop Chain :=
  match next.extensionForm? with
  | none => .ok ⟨next, length, [], isFirst, true⟩
  | some form =>
    match _here : advance start length with
    | .error stop => .error stop
    | .ok offset =>
      match _read : ExtensionHeader.read? data offset form with
      | none => .ok ⟨next, length, [], isFirst, false⟩
      | some header =>
        -- The next position is not checked against the capture: the next header is.
        match follow data start header.nextHeader (length + header.length)
            (isFirstBehind data offset form isFirst) with
        | .error stop => .error stop
        | .ok rest =>
          .ok { rest with marks := marksOf data offset next form header.length ++ rest.marks }
termination_by data.size - (start + length)
decreasing_by
  have := eq_add_of_advance _here
  have := ExtensionHeader.lt_size_of_read? _read
  omega

/-- The chain that starts at `start` with a header of type `next`. -/
def read (data : Octets) (start : Nat) (next : IpProtocol) : Except Stop Chain :=
  follow data start next 0 true

end Chain

end FrameSpans
