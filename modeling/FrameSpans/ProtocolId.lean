import FrameSpans.Tag.Ip
import FrameSpans.Tag.Options

/-!
# Protocol ids

Every span carries an id of seven bits: two for its class, five for the *ordinal* within that class.
Ordinals are what the 32-bit sets of this library index. The set of protocols of a descriptor holds
ordinals of the class `protocol`, each set of suppressed options those of one option class.

Ordinals of the class `protocol` from `extensionBase` on are left to handlers.
-/

namespace FrameSpans

/-- The kind of header an id refers to. -/
inductive Class
  /-- A complete protocol header, counted in the set of protocols. -/
  | protocol
  /-- An option of an IPv4 header. -/
  | ipv4Option
  /-- An extension header of an IPv6 header. -/
  | ipv6Extension
  /-- An option of a TCP header. -/
  | tcpOption
  deriving DecidableEq, Repr

namespace Class

/-- The two bits of a class. -/
def code : Class → Nat
  | .protocol => 0
  | .ipv4Option => 1
  | .ipv6Extension => 2
  | .tcpOption => 3

/-- The class with the given bits. -/
def ofCode (code : Nat) : Class :=
  match code % 4 with
  | 0 => .protocol
  | 1 => .ipv4Option
  | 2 => .ipv6Extension
  | _ => .tcpOption

/-- The bits of a class give it back. -/
@[simp] theorem ofCode_code (c : Class) : ofCode c.code = c := by
  cases c <;> rfl

/-- A class takes two bits. -/
theorem code_lt (c : Class) : c.code < 4 := by
  cases c <;> decide

end Class

/-- Identifies the protocol, option or extension header of a span. -/
structure ProtocolId where
  /-- The kind of header. -/
  kind : Class
  /-- The position of the id within the sets of its class. -/
  ordinal : Fin 32
  deriving DecidableEq, Repr

namespace ProtocolId

/-- The first ordinal of the class `protocol` that is left to handlers. -/
def extensionBase : Nat := 16

/-- The id of a class whose ordinal is the low five bits of `ordinal`. -/
def ofClass (kind : Class) (ordinal : Nat) : ProtocolId :=
  ⟨kind, Fin.ofNat 32 ordinal⟩

/-- MAC header, VLAN tags included. -/
def ethernet : ProtocolId := ofClass .protocol 0
/-- Logical link control header. -/
def llc : ProtocolId := ofClass .protocol 1
/-- Subnetwork access protocol header behind LLC. -/
def snap : ProtocolId := ofClass .protocol 2
/-- ARP and RARP. -/
def arp : ProtocolId := ofClass .protocol 3
/-- IPv4 header, options included. -/
def ipv4 : ProtocolId := ofClass .protocol 4
/-- IPv6 header, its extension headers included. -/
def ipv6 : ProtocolId := ofClass .protocol 5
/-- Novell IPX header. -/
def ipx : ProtocolId := ofClass .protocol 6
/-- TCP header, options included. -/
def tcp : ProtocolId := ofClass .protocol 7
/-- UDP header. -/
def udp : ProtocolId := ofClass .protocol 8
/-- ICMPv4 message header. -/
def icmpv4 : ProtocolId := ofClass .protocol 9
/-- ICMPv6 message header. -/
def icmpv6 : ProtocolId := ofClass .protocol 10
/-- GRE header, optional fields included. -/
def gre : ProtocolId := ofClass .protocol 11
/-- SCTP common header. -/
def sctp : ProtocolId := ofClass .protocol 12

/-- The id that handlers own at `index`, of which the low four bits count. -/
def extension (index : Nat) : ProtocolId :=
  ofClass .protocol (extensionBase + index % 16)

/-! ## Raw values -/

/-- The seven bits of an id. -/
def raw (id : ProtocolId) : Nat :=
  id.kind.code * 32 + id.ordinal

/-- The id in the low seven bits of a number. -/
def ofRaw (raw : Nat) : ProtocolId :=
  ⟨Class.ofCode (raw / 32), Fin.ofNat 32 raw⟩

/-- The id with the given raw value, if it has no more than seven bits. -/
def ofRaw? (raw : Nat) : Option ProtocolId :=
  if raw < 128 then some (ofRaw raw) else none

/-- An id has no more than seven bits. -/
theorem raw_lt (id : ProtocolId) : id.raw < 128 := by
  have := id.kind.code_lt
  unfold raw
  omega

/-- The bits of an id give it back. -/
@[simp] theorem ofRaw_raw (id : ProtocolId) : ofRaw id.raw = id := by
  obtain ⟨kind, ordinal⟩ := id
  have quotient : (kind.code * 32 + ordinal.val) / 32 = kind.code := by omega
  simp only [ofRaw, raw, quotient, Class.ofCode_code, mk.injEq, true_and]
  ext
  simp only [Fin.ofNat]
  omega

/-! ## Ids of options and extension headers -/

/-- The id of an IPv4 option, by its option number. -/
def ipv4Option (type : Ipv4OptionType) : ProtocolId :=
  ofClass .ipv4Option type.number

/-- The id of an IPv6 extension header, if the protocol is one. -/
def ipv6Extension? : IpProtocol → Option ProtocolId
  | .hopByHop => some (ofClass .ipv6Extension 0)
  | .ipv6Route => some (ofClass .ipv6Extension 1)
  | .ipv6Frag => some (ofClass .ipv6Extension 2)
  | .ipv6Opts => some (ofClass .ipv6Extension 3)
  | .ah => some (ofClass .ipv6Extension 4)
  | .mobility => some (ofClass .ipv6Extension 5)
  | .hip => some (ofClass .ipv6Extension 6)
  | .shim6 => some (ofClass .ipv6Extension 7)
  | _ => none

/-- The id of a TCP option, if options of its kind are recorded. -/
def tcpOption? : TcpOptionKind → Option ProtocolId
  | .endOfList => some (ofClass .tcpOption 0)
  | .noOperation => some (ofClass .tcpOption 1)
  | .maxSegmentSize => some (ofClass .tcpOption 2)
  | .windowScale => some (ofClass .tcpOption 3)
  | .sackRange => some (ofClass .tcpOption 5)
  | .timestamp => some (ofClass .tcpOption 8)
  | .fastOpen => some (ofClass .tcpOption 30)
  | _ => none

/-! ## Names -/

/-- The names of the protocols that are not left to handlers, by ordinal. -/
def protocolNames : List String :=
  ["ETHER", "LLC", "SNAP", "ARP", "IPv4", "IPv6", "IPX", "TCP", "UDP", "ICMPv4", "ICMPv6", "GRE",
    "SCTP"]

/-- The name shown for an id. -/
def name (id : ProtocolId) : String :=
  match id.kind with
  | .protocol =>
    match protocolNames[id.ordinal.val]? with
    | some name => name
    | none => "EXT-" ++ toString id.ordinal.val
  | .ipv4Option => "IPv4-OPT-" ++ toString id.ordinal.val
  | .ipv6Extension => "IPv6-EXT-" ++ toString id.ordinal.val
  | .tcpOption => "TCP-OPT-" ++ toString id.ordinal.val

end ProtocolId

end FrameSpans
