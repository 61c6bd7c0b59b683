import FrameSpans.Proofs.ProtocolId
import FrameSpans.Proofs.Reading.Captured
import FrameSpans.Proofs.Reading.Chain
import FrameSpans.Proofs.Reading.Framing

/-!
# Chains of extension headers, header by header

`Chain.Listed` tells a chain by its octets: each extension header is announced by the one before it,
was captured completely, has as many octets as its type and its second octet say, and the id of its
protocol number. The chain ends at a header that is not an extension header.

Following such a chain comes to that end and finds the span of each header, fragment headers apart
(`Chain.exists_follow_of_listed`). So the reading of an IPv6 packet with such a chain is the header
with the whole chain, and the payload behind it is entered once, unless the packet is a later
fragment (`Reading.ipv6_of_listed`, `Reading.payloads_ipPayload`).
-/

namespace FrameSpans

/-! ## Extension headers -/

/-- An extension header of a chain, as it stands in the octets. -/
structure ExtensionLink where
  /-- The type under which it was announced. -/
  type : IpProtocol
  /-- The id of headers of that type. -/
  id : ProtocolId
  /-- The position of its first octet. -/
  offset : Nat
  /-- The number of its octets. -/
  length : Nat
  deriving DecidableEq, Repr

namespace ExtensionLink

/-- The number of octets of an extension header with the given second octet. That octet counts units
of eight octets behind the first eight; a fragment header has eight octets whatever it says. -/
def lengthOf (type : IpProtocol) (declared : UInt8) : Nat :=
  if type = .ipv6Frag then 8 else 8 * declared.toNat + 8

/-- How an extension header of the given type tells its length. -/
def formOf (type : IpProtocol) : ExtensionForm :=
  if type = .ipv6Frag then .fixed else .units8

/-- The octets that the header takes. -/
def span (link : ExtensionLink) : Span :=
  ⟨link.id, link.offset, link.length⟩

/-- The number of octets of all headers of a chain. -/
def total : List ExtensionLink → Nat
  | [] => 0
  | link :: rest => link.length + total rest

/-- The spans of the headers of a chain, in order. A fragment header has none. -/
def spans (links : List ExtensionLink) : List Span :=
  (links.filter fun link => link.type ≠ .ipv6Frag).map span

/-- No fragment header of a chain tells a fragment offset other than zero. -/
def FirstFragment (data : Octets) (links : List ExtensionLink) : Prop :=
  ∀ link ∈ links, link.type = .ipv6Frag →
    ∀ fields, FragmentFields.read? data link.offset = some fields → fields.offset = 0

/-- The octets of one more header in front. -/
@[simp] theorem total_cons (link : ExtensionLink) (links : List ExtensionLink) :
    total (link :: links) = link.length + total links :=
  rfl

/-- The spans of one more header in front. -/
theorem spans_cons (link : ExtensionLink) (links : List ExtensionLink) :
    spans (link :: links) = (if link.type = .ipv6Frag then [] else [link.span]) ++ spans links := by
  by_cases fragment : link.type = .ipv6Frag <;> simp [spans, fragment]

end ExtensionLink

open ExtensionLink (total spans FirstFragment)

/-- The span of a mark, if it is that of an option or extension header. -/
def Mark.span? : Mark → Option Span
  | .option span => some span
  | .fragment _ => none

/-- A type with an id is that of an extension header, and the fragment header is the one of fixed
length. -/
theorem IpProtocol.extensionForm?_of_id {type : IpProtocol} {id : ProtocolId}
    (h : ProtocolId.ipv6Extension? type = some id) :
    type.extensionForm? = some (ExtensionLink.formOf type) := by
  cases type <;> first | rfl | cases h

/-- A type without an id is not that of an extension header. -/
theorem IpProtocol.extensionForm?_of_no_id {type : IpProtocol}
    (h : ProtocolId.ipv6Extension? type = none) : type.extensionForm? = none := by
  cases type <;> first | rfl | cases h

/-! ## Chains -/

namespace Chain

/-- The octets from `position` on are these extension headers, one behind the other, the first of
them announced with type `type`, and behind them stands a header of type `last`, which is not an
extension header. All extension headers were captured completely. -/
inductive Listed (data : Octets) : Nat → IpProtocol → List ExtensionLink → IpProtocol → Prop
  /-- What was announced is not an extension header. -/
  | ends {position : Nat} {type : IpProtocol}
    (upper : ProtocolId.ofExtension? type.value = none) : Listed data position type [] type
  /-- What was announced is an extension header, and announces what comes behind it. -/
  | behind {position : Nat} {type last : IpProtocol} {id : ProtocolId} {next declared : UInt8}
    {links : List ExtensionLink} (extension : ProtocolId.ofExtension? type.value = some id)
    (announced : data.octet? position = some next)
    (told : data.octet? (position + 1) = some declared)
    (whole : position + ExtensionLink.lengthOf type declared ≤ data.size)
    (rest : Listed data (position + ExtensionLink.lengthOf type declared) (.ofValue next) links
      last) :
    Listed data position type
      (⟨type, id, position, ExtensionLink.lengthOf type declared⟩ :: links) last

/-- Each header of a chain lies in the captured octets and in the chain. -/
theorem Listed.bounds {data : Octets} {position : Nat} {type last : IpProtocol}
    {links : List ExtensionLink} (h : Listed data position type links last) :
    ∀ link ∈ links, link.offset + link.length ≤ data.size ∧
      link.offset + link.length ≤ position + total links ∧ link.length ≤ total links := by
  induction h with
  | ends => nofun
  | behind extension announced told whole rest ih =>
    rw [ExtensionLink.total_cons]
    refine List.forall_mem_cons.mpr ⟨⟨whole, ?_, Nat.le_add_right _ _⟩, fun link member => ?_⟩
    · exact Nat.add_le_add_left (Nat.le_add_right _ _) _
    · obtain ⟨captured, within, short⟩ := ih link member
      dsimp only
      exact ⟨captured, by omega, by omega⟩

/-- A chain ends within the captured octets if it starts there. -/
theorem Listed.end_le {data : Octets} {position : Nat} {type last : IpProtocol}
    {links : List ExtensionLink} (h : Listed data position type links last)
    (begins : position ≤ data.size) : position + total links ≤ data.size := by
  induction h with
  | ends => exact begins
  | behind extension announced told whole rest ih =>
    rw [ExtensionLink.total_cons, ← Nat.add_assoc]
    exact ih whole

/-- The start of an extension header is read from its two octets. -/
theorem read?_of_octets {data : Octets} {offset : Nat} {next declared : UInt8}
    (announced : data.octet? offset = some next) (told : data.octet? (offset + 1) = some declared)
    (type : IpProtocol) :
    ExtensionHeader.read? data offset (ExtensionLink.formOf type) =
      some ⟨.ofValue next, ExtensionLink.lengthOf type declared⟩ := by
  rw [ExtensionHeader.read?, announced, told, ExtensionLink.lengthOf, ExtensionLink.formOf]
  by_cases fragment : type = .ipv6Frag
  · simp only [if_pos fragment]
  · simp only [if_neg fragment, Nat.mul_comm]

/-- An extension header leaves its span, and a fragment header leaves none. -/
theorem spans_marksOf (data : Octets) (offset length : Nat) {type : IpProtocol} {id : ProtocolId}
    (extension : ProtocolId.ipv6Extension? type = some id) :
    (marksOf data offset type (ExtensionLink.formOf type) length).filterMap Mark.span? =
      if type = .ipv6Frag then [] else [⟨id, offset, length⟩] := by
  rw [ExtensionLink.formOf]
  by_cases fragment : type = .ipv6Frag
  · rw [if_pos fragment, if_pos fragment, marksOf]
    cases FragmentFields.read? data offset <;> rfl
  · rw [if_neg fragment, if_neg fragment, marksOf, extension]
    rfl

/-- Behind an extension header the packet stays a first fragment, unless the header denies it. -/
theorem isFirstBehind_of_zero {data : Octets} {offset : Nat} {type : IpProtocol}
    (zero : type = .ipv6Frag →
      ∀ fields, FragmentFields.read? data offset = some fields → fields.offset = 0) :
    isFirstBehind data offset (ExtensionLink.formOf type) true = true := by
  rw [ExtensionLink.formOf]
  by_cases fragment : type = .ipv6Frag
  · rw [if_pos fragment, isFirstBehind]
    cases captured : FragmentFields.read? data offset with
    | none => rfl
    | some fields => exact beq_iff_eq.mpr (zero fragment fields captured)
  · rw [if_neg fragment, isFirstBehind]

/-- What following a chain of the given headers comes to. -/
structure Covers (data : Octets) (links : List ExtensionLink) (last : IpProtocol) (isFirst : Bool)
    (chain : Chain) : Prop where
  /-- It comes to the header that is not an extension header. -/
  next_eq : chain.next = last
  /-- The chain did not end with the capture. -/
  complete : chain.complete = true
  /-- It finds the span of each extension header, in order. -/
  spans_eq : chain.marks.filterMap Mark.span? = spans links
  /-- A first fragment stays one, unless a fragment header denies it. -/
  first : FirstFragment data links → isFirst = true → chain.isFirstFragment = true

/-- Following a chain of extension headers that were captured leads behind all of them, and finds
the span of each. -/
theorem exists_follow_of_listed {data : Octets} {position start length : Nat}
    {type last : IpProtocol} {links : List ExtensionLink}
    (h : Listed data position type links last) (known : .ofValue type.value = type)
    (here : position = start + length) (isFirst : Bool)
    (near : position + total links < offsetBound) :
    ∃ chain, follow data start type length isFirst = .ok chain ∧
      start + chain.length = position + total links ∧ chain.Covers data links last isFirst := by
  -- Induction along the chain: a header is read, and the others follow behind it.
  induction h generalizing length isFirst with
  | @ends position type upper =>
    subst here
    refine ⟨⟨type, length, [], isFirst, true⟩, ?_, rfl, rfl, rfl, rfl, fun _ begun => begun⟩
    have unnamed : ProtocolId.ipv6Extension? type = none :=
      (ProtocolId.ipv6Extension?_eq known).trans upper
    rw [follow_eq, IpProtocol.extensionForm?_of_no_id unnamed]
  | @behind position type last id next declared links extension announced told whole rest ih =>
    subst here
    rw [ExtensionLink.total_cons, ← Nat.add_assoc] at near ⊢
    dsimp only at near ⊢
    have named : ProtocolId.ipv6Extension? type = some id :=
      (ProtocolId.ipv6Extension?_eq known).trans extension
    have read := read?_of_octets announced told type
    obtain ⟨chain, followed, ends, covers⟩ := ih (by rw [IpProtocol.value_ofValue])
      (Nat.add_assoc _ _ _)
      (isFirstBehind data (start + length) (ExtensionLink.formOf type) isFirst) near
    let marks := marksOf data (start + length) type (ExtensionLink.formOf type)
      (ExtensionLink.lengthOf type declared)
    refine ⟨{ chain with marks := marks ++ chain.marks }, ?_, ends, covers.next_eq,
      covers.complete, ?_, fun first begun => ?_⟩
    · rw [follow_of_read isFirst (IpProtocol.extensionForm?_of_id named) (by omega) read,
        followed]
      rfl
    · rw [List.filterMap_append, spans_marksOf data _ _ named, covers.spans_eq,
        ExtensionLink.spans_cons]
      rfl
    · subst begun
      obtain ⟨zero, others⟩ := List.forall_mem_cons.mp first
      exact covers.first others (isFirstBehind_of_zero zero)

end Chain

/-! ## Packets -/

/-- Whether a step enters the payload of an IP header. -/
def Step.isPayload : Step → Bool
  | .payload .. => true
  | .header _ | .mark _ | .chained .. | .framing _ | .remark _ => false

/-- A step that does not enter the payload of an IP header. -/
def Step.Remains (step : Step) : Prop :=
  step.isPayload = false

namespace Reading

section Payload

variable (data : Octets) (offset : Nat)

/-- A TCP header and its options enter no payload. -/
theorem remains_tcp : (tcp data offset).Only Step.Remains := by
  rw [tcp, only_attempt]
  intro header _
  split
  · exact .after_one rfl only_complete
  · simp only [only_attempt, only_after, only_ends, and_true]
    intro payload _ options _
    refine List.forall_mem_cons.mpr ⟨rfl, fun step marked => ?_⟩
    obtain ⟨mark, -, rfl⟩ := List.mem_map.mp marked
    rfl

/-- A header of fixed length enters no payload. -/
theorem remains_fixed (id : ProtocolId) (length : Nat) :
    (attempt (data.require offset length) fun _ =>
      after [.header ⟨id, offset, length⟩] complete).Only Step.Remains := by
  rw [only_attempt]
  exact fun _ _ => .after_one rfl only_complete

/-- An ICMPv6 message enters no payload, not even that of the datagram it quotes, which is read one
level deeper. -/
theorem remains_icmpv6 : (icmpv6 data offset).Only Step.Remains := by
  rw [icmpv6, only_attempt]
  intro header _
  dsimp only
  split
  · exact .after_one rfl only_complete
  · next length _ => exact remains_fixed data offset .icmpv6 length
  · rw [only_attempt]
    exact fun _ _ => .after_one rfl (only_ends _)

/-- What stands behind an IP header enters no payload beyond that of the header. -/
theorem exists_ipPayload_eq_after (protocol : IpProtocol) (parent : ProtocolId) :
    ∃ rest : Reading, rest.Only Step.Remains ∧
      ipPayload data offset protocol parent = after [.payload protocol offset parent] rest := by
  refine ⟨_, ?_, rfl⟩
  cases protocol with
  | tcp => exact remains_tcp data offset
  | udp =>
    simp only [udp, only_attempt]
    exact fun _ _ _ _ => .after_one rfl (only_ends _)
  | icmp => exact remains_fixed data offset .icmpv4 _
  | icmpv6 => exact remains_icmpv6 data offset
  | gre =>
    simp only [gre, only_attempt]
    exact fun _ _ _ _ => .after_one rfl (only_ends _)
  | sctp => exact remains_fixed data offset .sctp _
  | ipxInIp => exact remains_fixed data offset .ipx _
  | _ => exact only_ends _

/-- Behind an IP header one payload is entered, that of the header. -/
theorem payloads_ipPayload (protocol : IpProtocol) (parent : ProtocolId) :
    (ipPayload data offset protocol parent).steps.filter Step.isPayload =
      [.payload protocol offset parent] := by
  obtain ⟨rest, remains, eq⟩ := exists_ipPayload_eq_after data offset protocol parent
  have none : rest.steps.filter Step.isPayload = [] :=
    List.filter_eq_nil_iff.mpr fun step member => Bool.eq_false_iff.mp (remains step member)
  rw [eq, steps_after, List.filter_append, none]
  rfl

end Payload

/-- An IPv6 packet with a chain of extension headers that were captured is read as one header with
the whole chain, and goes on behind it unless it is a later fragment. -/
theorem ipv6_of_listed {data : Octets} {offset : Nat} {next : UInt8} {last : IpProtocol}
    {links : List ExtensionLink} (captured : offset + Ipv6Header.size ≤ data.size)
    (type : data.octet? (offset + 6) = some next)
    (listed : Chain.Listed data (offset + Ipv6Header.size) (.ofValue next) links last)
    (near : offset + Ipv6Header.size + total links < offsetBound) :
    ∃ chain : Chain, chain.Covers data links last true ∧
      ipv6 data offset =
        after [.chained ⟨.ipv6, offset, Ipv6Header.size⟩ chain.marks (total links)]
          (if chain.isFirstFragment then
            ipPayload data (offset + Ipv6Header.size + total links) last .ipv6
          else complete) := by
  obtain ⟨header, read⟩ := Ipv6Header.exists_read captured
  obtain ⟨octet, field, told⟩ := Ipv6Header.fields_of_read read
  rw [type] at field
  obtain rfl := Option.some.inj field
  obtain ⟨chain, followed, ends, covers⟩ :=
    Chain.exists_follow_of_listed listed (by rw [IpProtocol.value_ofValue]) (Nat.add_zero _).symm
      true near
  rw [← told] at followed
  have begins : advance offset Ipv6Header.size = .ok (offset + Ipv6Header.size) :=
    if_pos (by omega)
  have length : chain.length = total links := Nat.add_left_cancel ends
  have payload : advance (offset + Ipv6Header.size) (total links) =
      .ok (offset + Ipv6Header.size + total links) := if_pos near
  refine ⟨chain, covers, ?_⟩
  rw [ipv6, read, attempt_ok, begins, attempt_ok, Chain.read, followed, attempt_ok, length, payload,
    attempt_ok, covers.complete, covers.next_eq]
  cases chain.isFirstFragment <;> rfl

end Reading

end FrameSpans
