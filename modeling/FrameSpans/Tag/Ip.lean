import FrameSpans.Text.Base16

/-!
# IP versions and protocols

The first octet of an IP header tells its version. The protocol field of an IPv4 header and the next
header field of an IPv6 header share one open registry of values.
-/

namespace FrameSpans

/-! ## Versions -/

/-- The version of an IP header. -/
inductive IpVersion
  /-- Version 4. -/
  | v4
  /-- Version 6. -/
  | v6
  deriving DecidableEq, Repr

namespace IpVersion

/-- The version in the upper half of the first octet, if it is one that is dissected. -/
def ofFirstOctet? (octet : UInt8) : Option IpVersion :=
  match octet >>> 4 with
  | 4 => some .v4
  | 6 => some .v6
  | _ => none

/-- The text shown for a version. -/
def describe : IpVersion → String
  | .v4 => "IPv4"
  | .v6 => "IPv6"

end IpVersion

/-! ## Protocols -/

/-- What follows an IP header or an extension header of it. -/
inductive IpProtocol
  /-- IPv6 hop-by-hop options. -/
  | hopByHop
  /-- ICMPv4. -/
  | icmp
  /-- An encapsulated IPv4 datagram. -/
  | ipInIp
  /-- TCP. -/
  | tcp
  /-- UDP. -/
  | udp
  /-- An encapsulated IPv6 datagram. -/
  | ipv6
  /-- IPv6 routing header. -/
  | ipv6Route
  /-- IPv6 fragment header. -/
  | ipv6Frag
  /-- GRE. -/
  | gre
  /-- Encapsulating security payload. -/
  | esp
  /-- Authentication header. -/
  | ah
  /-- ICMPv6. -/
  | icmpv6
  /-- Nothing follows. -/
  | ipv6NoNxt
  /-- IPv6 destination options. -/
  | ipv6Opts
  /-- An encapsulated IPX datagram. -/
  | ipxInIp
  /-- SCTP. -/
  | sctp
  /-- IPv6 mobility header. -/
  | mobility
  /-- Host identity protocol. -/
  | hip
  /-- Site multihoming header. -/
  | shim6
  /-- A value without built-in handling. -/
  | unknown (value : UInt8)
  deriving DecidableEq, Ord, Repr

namespace IpProtocol

/-- The tag of a value. -/
def ofValue : UInt8 → IpProtocol
  | 0x00 => .hopByHop
  | 0x01 => .icmp
  | 0x04 => .ipInIp
  | 0x06 => .tcp
  | 0x11 => .udp
  | 0x29 => .ipv6
  | 0x2b => .ipv6Route
  | 0x2c => .ipv6Frag
  | 0x2f => .gre
  | 0x32 => .esp
  | 0x33 => .ah
  | 0x3a => .icmpv6
  | 0x3b => .ipv6NoNxt
  | 0x3c => .ipv6Opts
  | 0x6f => .ipxInIp
  | 0x84 => .sctp
  | 0x87 => .mobility
  | 0x8b => .hip
  | 0x8c => .shim6
  | value => .unknown value

/-- The value of a tag. -/
def value : IpProtocol → UInt8
  | .hopByHop => 0x00
  | .icmp => 0x01
  | .ipInIp => 0x04
  | .tcp => 0x06
  | .udp => 0x11
  | .ipv6 => 0x29
  | .ipv6Route => 0x2b
  | .ipv6Frag => 0x2c
  | .gre => 0x2f
  | .esp => 0x32
  | .ah => 0x33
  | .icmpv6 => 0x3a
  | .ipv6NoNxt => 0x3b
  | .ipv6Opts => 0x3c
  | .ipxInIp => 0x6f
  | .sctp => 0x84
  | .mobility => 0x87
  | .hip => 0x8b
  | .shim6 => 0x8c
  | .unknown value => value

/-- A value survives being made a tag. -/
@[simp] theorem value_ofValue (v : UInt8) : (ofValue v).value = v := by
  unfold ofValue
  split <;> rfl

/-- The name of a tag in diagnostics. -/
def name : IpProtocol → String
  | .hopByHop => "HopByHop"
  | .icmp => "Icmp"
  | .ipInIp => "IpInIp"
  | .tcp => "Tcp"
  | .udp => "Udp"
  | .ipv6 => "Ipv6"
  | .ipv6Route => "Ipv6Route"
  | .ipv6Frag => "Ipv6Frag"
  | .gre => "Gre"
  | .esp => "Esp"
  | .ah => "Ah"
  | .icmpv6 => "Icmpv6"
  | .ipv6NoNxt => "Ipv6NoNxt"
  | .ipv6Opts => "Ipv6Opts"
  | .ipxInIp => "IpxInIp"
  | .sctp => "Sctp"
  | .mobility => "Mobility"
  | .hip => "Hip"
  | .shim6 => "Shim6"
  | .unknown value => "Unknown(" ++ toString value.toNat ++ ")"

/-- The text shown for a protocol. -/
def describe : IpProtocol → String
  | .hopByHop => "Hop-by-Hop"
  | .icmp => "ICMP"
  | .ipInIp => "IPv4-in-IP"
  | .tcp => "TCP"
  | .udp => "UDP"
  | .ipv6 => "IPv6-in-IP"
  | .ipv6Route => "IPv6-Route"
  | .ipv6Frag => "IPv6-Frag"
  | .gre => "GRE"
  | .esp => "ESP"
  | .ah => "AH"
  | .icmpv6 => "ICMPv6"
  | .ipv6NoNxt => "IPv6-NoNxt"
  | .ipv6Opts => "IPv6-Opts"
  | .ipxInIp => "IPX-in-IP"
  | .sctp => "SCTP"
  | .mobility => "Mobility"
  | .hip => "HIP"
  | .shim6 => "Shim6"
  | .unknown value => Text.hexMarked 2 value.toNat

end IpProtocol

/-! ## Extension headers -/

/-- How an extension header tells its length. -/
inductive ExtensionForm
  /-- It always has eight octets. -/
  | fixed
  /-- Its second octet counts units of eight octets behind the first eight. -/
  | units8
  deriving DecidableEq, Repr

/-- The form of an extension header that continues the chain of an IPv6 header.

Upper layer protocols end the chain, and so do "nothing follows" and the encrypted security payload. -/
def IpProtocol.extensionForm? : IpProtocol → Option ExtensionForm
  | .ipv6Frag => some .fixed
  | .hopByHop | .ah | .ipv6Route | .ipv6Opts | .mobility | .hip | .shim6 => some .units8
  | _ => none

end FrameSpans
