import FrameSpans.Text.Base16

/-!
# Ethertypes

The 16-bit type field of a link layer or GRE header. The field is an open registry: the values that the
walk acts on have a name, every other value is kept so that a handler can be asked about it.
-/

namespace FrameSpans

/-- What follows a link layer header. -/
inductive EtherType
  /-- An IPv4 header follows. -/
  | ipv4
  /-- An ARP packet follows. -/
  | arp
  /-- An Ethernet frame follows. -/
  | transparentBridging
  /-- A reverse ARP packet follows. -/
  | rarp
  /-- An 802.1Q tag follows. -/
  | vlan
  /-- An IPX header follows. -/
  | ipx
  /-- An IPv6 header follows. -/
  | ipv6
  /-- An 802.1ad tag follows. -/
  | qinq
  /-- A value without built-in handling. -/
  | unknown (value : UInt16)
  deriving DecidableEq, Ord, Repr

namespace EtherType

/-- The tag of a value. -/
def ofValue : UInt16 → EtherType
  | 0x0800 => .ipv4
  | 0x0806 => .arp
  | 0x6558 => .transparentBridging
  | 0x8035 => .rarp
  | 0x8100 => .vlan
  | 0x8137 => .ipx
  | 0x86dd => .ipv6
  | 0x88a8 => .qinq
  | value => .unknown value

/-- The value of a tag. -/
def value : EtherType → UInt16
  | .ipv4 => 0x0800
  | .arp => 0x0806
  | .transparentBridging => 0x6558
  | .rarp => 0x8035
  | .vlan => 0x8100
  | .ipx => 0x8137
  | .ipv6 => 0x86dd
  | .qinq => 0x88a8
  | .unknown value => value

/-- A value survives being made a tag. -/
@[simp] theorem value_ofValue (v : UInt16) : (ofValue v).value = v := by
  unfold ofValue
  split <;> rfl

/-- The name of a tag in diagnostics. -/
def name : EtherType → String
  | .ipv4 => "Ipv4"
  | .arp => "Arp"
  | .transparentBridging => "TransparentBridging"
  | .rarp => "Rarp"
  | .vlan => "Vlan"
  | .ipx => "Ipx"
  | .ipv6 => "Ipv6"
  | .qinq => "QinQ"
  | .unknown value => "Unknown(" ++ toString value.toNat ++ ")"

/-- The text shown for an ethertype. -/
def describe : EtherType → String
  | .ipv4 => "IPv4"
  | .arp => "ARP"
  | .transparentBridging => "TEB"
  | .rarp => "RARP"
  | .vlan => "802.1Q"
  | .ipx => "IPX"
  | .ipv6 => "IPv6"
  | .qinq => "802.1ad"
  | .unknown value => Text.hexMarked 4 value.toNat

/-- Whether the type announces a VLAN tag instead of a payload. -/
def isTag : EtherType → Bool
  | .vlan | .qinq => true
  | _ => false

end EtherType

end FrameSpans
