import FrameSpans.Reading.Basic
import FrameSpans.Tag.Options

/-!
# Header options

The options of an IPv4 or TCP header stand between its fixed part and its end. `HeaderOption.scan`
lists them: a single octet for the kinds 0 and 1, the length in the second octet for all others. It
stops at the end of the header, and at the first option that has no length of at least two or would
pass the end of the header.
-/

namespace FrameSpans

/-- An option of an IPv4 or TCP header. -/
structure HeaderOption where
  /-- The first octet of the option. -/
  kind : UInt8
  /-- The position of that octet. -/
  offset : Nat
  /-- The number of octets of the option. -/
  length : Nat
  deriving DecidableEq, Repr

namespace HeaderOption

/-- Whether the options of a kind are single octets. -/
def isSingleOctet (kind : UInt8) : Bool :=
  kind ≤ 1

/-- IPv4 options agree on which kinds are single octets. -/
theorem isSingleOctet_ipv4 (kind : UInt8) :
    (Ipv4OptionType.ofValue kind).isSingleOctet = isSingleOctet kind := by
  have all : ∀ n : Fin 256, (Ipv4OptionType.ofValue ⟨⟨n⟩⟩).isSingleOctet = isSingleOctet ⟨⟨n⟩⟩ := by
    decide +kernel
  exact all kind.toFin

/-- TCP options agree on which kinds are single octets. -/
theorem isSingleOctet_tcp (kind : UInt8) :
    (TcpOptionKind.ofValue kind).isSingleOctet = isSingleOctet kind := by
  have all : ∀ n : Fin 256, (TcpOptionKind.ofValue ⟨⟨n⟩⟩).isSingleOctet = isSingleOctet ⟨⟨n⟩⟩ := by
    decide +kernel
  exact all kind.toFin

/-- The number of octets of the option of a kind at `offset`, if it tells a valid one. -/
def length? (data : Octets) (offset : Nat) (kind : UInt8) : Except Stop (Option Nat) :=
  if isSingleOctet kind then .ok (some 1)
  else
    match advance offset 1 with
    | .error stop => .error stop
    | .ok second =>
      match data.octet? second with
      | some length => .ok (if 2 ≤ length then some length.toNat else none)
      | none => .ok none

/-- An option is not empty. -/
theorem pos_of_length? {data : Octets} {offset : Nat} {kind : UInt8} {length : Nat}
    (h : length? data offset kind = .ok (some length)) : 0 < length := by
  unfold length? at h
  split at h
  · cases h
    decide
  · split at h
    · cases h
    · split at h
      · next told _ =>
        split at h
        · next valid =>
          cases h
          have := UInt8.le_iff_toNat_le.mp valid
          simp at this
          omega
        · cases h
      · cases h

/-- The options between `offset` and the end of the header at `stop`. -/
def scan (data : Octets) (offset stop : Nat) : Except Stop (List HeaderOption) :=
  if offset < stop then
    match data.octet? offset with
    | none => .ok []
    | some kind =>
      match _told : length? data offset kind with
      | .error stopped => .error stopped
      | .ok none => .ok []
      | .ok (some length) =>
        match _next : advance offset length with
        | .error stopped => .error stopped
        | .ok next =>
          -- An option that passes the end of the header is left out, and so is what follows it.
          if stop < next then .ok []
          else
            match scan data next stop with
            | .error stopped => .error stopped
            | .ok rest => .ok (⟨kind, offset, length⟩ :: rest)
  else .ok []
termination_by stop - offset
decreasing_by
  have := pos_of_length? _told
  have := eq_add_of_advance _next
  omega

/-- What an IPv4 option leaves in a reading. -/
def ipv4Mark (option : HeaderOption) : Mark :=
  .option ⟨.ipv4Option (.ofValue option.kind), option.offset, option.length⟩

/-- What a TCP option leaves in a reading: options of a kind without an id are skipped. -/
def tcpMark? (option : HeaderOption) : Option Mark :=
  (ProtocolId.tcpOption? (.ofValue option.kind)).map fun id =>
    .option ⟨id, option.offset, option.length⟩

end HeaderOption

end FrameSpans
