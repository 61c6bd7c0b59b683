import FrameSpans.ProtocolId

/-!
# Which octets have which ids

Options and extension headers tell their kind in one octet: the type of an IPv4 option, the kind of a
TCP option, the protocol number under which an extension header is announced. An IPv4 option has the
number in the low five bits of its type for an ordinal. For the other two the ordinals are listed
here, octet by octet, and what is not listed has no id.

The ids that a dissector looks up by the names of the kinds are those of these octets
(`ProtocolId.ipv4Option_ofValue`, `ProtocolId.tcpOption?_ofValue`,
`ProtocolId.ipv6Extension?_ofValue`).
-/

namespace FrameSpans.ProtocolId

/-- The TCP options that have an id: their kinds and their ordinals. -/
def tcpOrdinals : List (UInt8 × Nat) :=
  [(0, 0), (1, 1), (2, 2), (3, 3), (5, 5), (8, 8), (34, 30)]

/-- The extension headers of IPv6: their protocol numbers and their ordinals. -/
def extensionOrdinals : List (UInt8 × Nat) :=
  [(0, 0), (43, 1), (44, 2), (60, 3), (51, 4), (135, 5), (139, 6), (140, 7)]

/-- The id of IPv4 options with the given type octet: its low five bits are the ordinal. -/
def ofIpv4Type (type : UInt8) : ProtocolId :=
  .ofClass .ipv4Option type.toNat

/-- The id of TCP options with the given kind octet, if they have one. -/
def ofTcpKind? (kind : UInt8) : Option ProtocolId :=
  (tcpOrdinals.lookup kind).map (.ofClass .tcpOption ·)

/-- The id of extension headers with the given protocol number, if there are any. -/
def ofExtension? (protocol : UInt8) : Option ProtocolId :=
  (extensionOrdinals.lookup protocol).map (.ofClass .ipv6Extension ·)

/-- An IPv4 option has the id of its type octet. -/
theorem ipv4Option_ofValue (type : UInt8) :
    ipv4Option (.ofValue type) = ofIpv4Type type := by
  have all : ∀ n : Fin 256, ipv4Option (.ofValue ⟨⟨n⟩⟩) = ofIpv4Type ⟨⟨n⟩⟩ := by
    decide +kernel
  exact all type.toFin

/-- A TCP option has the id of its kind octet. -/
theorem tcpOption?_ofValue (kind : UInt8) :
    tcpOption? (.ofValue kind) = ofTcpKind? kind := by
  have all : ∀ n : Fin 256, tcpOption? (.ofValue ⟨⟨n⟩⟩) = ofTcpKind? ⟨⟨n⟩⟩ := by
    decide +kernel
  exact all kind.toFin

/-- An extension header has the id of its protocol number. -/
theorem ipv6Extension?_ofValue (protocol : UInt8) :
    ipv6Extension? (.ofValue protocol) = ofExtension? protocol := by
  have all : ∀ n : Fin 256, ipv6Extension? (.ofValue ⟨⟨n⟩⟩) = ofExtension? ⟨⟨n⟩⟩ := by
    decide +kernel
  exact all protocol.toFin

/-- The same of a type that is the one of its own number, as all types are that octets tell. -/
theorem ipv6Extension?_eq {type : IpProtocol} (known : .ofValue type.value = type) :
    ipv6Extension? type = ofExtension? type.value := by
  rw [← ipv6Extension?_ofValue, known]

end FrameSpans.ProtocolId
