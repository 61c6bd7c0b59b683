/-!
# ICMPv6 message types

The type octet of an ICMPv6 message tells how long its header is, and whether it quotes a datagram.
-/

namespace FrameSpans

/-- The type octet of an ICMPv6 message. -/
inductive Icmpv6Type
  /-- Destination unreachable. -/
  | dstUnreachable
  /-- Packet too big. -/
  | packetTooBig
  /-- Time exceeded. -/
  | timeExceeded
  /-- Parameter problem. -/
  | paramProblem
  /-- Echo request. -/
  | echoRequest
  /-- Echo reply. -/
  | echoReply
  /-- Multicast listener query. -/
  | mldQuery
  /-- Multicast listener report. -/
  | mldReport
  /-- Multicast listener done. -/
  | mldDone
  /-- Router solicitation. -/
  | routerSolicit
  /-- Router advertisement. -/
  | routerAdvert
  /-- Neighbour solicitation. -/
  | neighborSolicit
  /-- Neighbour advertisement. -/
  | neighborAdvert
  /-- Redirect. -/
  | redirect
  /-- Router renumbering. -/
  | routerRenumber
  /-- Node information query. -/
  | nodeInfoQuery
  /-- Node information reply. -/
  | nodeInfoReply
  /-- Inverse neighbour discovery solicitation. -/
  | inverseSolicit
  /-- Inverse neighbour discovery advertisement. -/
  | inverseAdvert
  /-- Home agent address discovery request. -/
  | homeAgentRequest
  /-- Home agent address discovery reply. -/
  | homeAgentReply
  /-- Mobile prefix solicitation. -/
  | mobilePrefixSolicit
  /-- Mobile prefix advertisement. -/
  | mobilePrefixAdvert
  /-- A value without built-in handling. -/
  | unknown (value : UInt8)
  deriving DecidableEq, Ord, Repr

namespace Icmpv6Type

/-- The tag of a value. -/
def ofValue : UInt8 → Icmpv6Type
  | 1 => .dstUnreachable
  | 2 => .packetTooBig
  | 3 => .timeExceeded
  | 4 => .paramProblem
  | 128 => .echoRequest
  | 129 => .echoReply
  | 130 => .mldQuery
  | 131 => .mldReport
  | 132 => .mldDone
  | 133 => .routerSolicit
  | 134 => .routerAdvert
  | 135 => .neighborSolicit
  | 136 => .neighborAdvert
  | 137 => .redirect
  | 138 => .routerRenumber
  | 139 => .nodeInfoQuery
  | 140 => .nodeInfoReply
  | 141 => .inverseSolicit
  | 142 => .inverseAdvert
  | 144 => .homeAgentRequest
  | 145 => .homeAgentReply
  | 146 => .mobilePrefixSolicit
  | 147 => .mobilePrefixAdvert
  | value => .unknown value

/-- The value of a tag. -/
def value : Icmpv6Type → UInt8
  | .dstUnreachable => 1
  | .packetTooBig => 2
  | .timeExceeded => 3
  | .paramProblem => 4
  | .echoRequest => 128
  | .echoReply => 129
  | .mldQuery => 130
  | .mldReport => 131
  | .mldDone => 132
  | .routerSolicit => 133
  | .routerAdvert => 134
  | .neighborSolicit => 135
  | .neighborAdvert => 136
  | .redirect => 137
  | .routerRenumber => 138
  | .nodeInfoQuery => 139
  | .nodeInfoReply => 140
  | .inverseSolicit => 141
  | .inverseAdvert => 142
  | .homeAgentRequest => 144
  | .homeAgentReply => 145
  | .mobilePrefixSolicit => 146
  | .mobilePrefixAdvert => 147
  | .unknown value => value

/-- A value survives being made a tag. -/
@[simp] theorem value_ofValue (v : UInt8) : (ofValue v).value = v := by
  unfold ofValue
  split <;> rfl

/-- The name of a tag in diagnostics. -/
def name : Icmpv6Type → String
  | .dstUnreachable => "DstUnreachable"
  | .packetTooBig => "PacketTooBig"
  | .timeExceeded => "TimeExceeded"
  | .paramProblem => "ParamProblem"
  | .echoRequest => "EchoRequest"
  | .echoReply => "EchoReply"
  | .mldQuery => "MldQuery"
  | .mldReport => "MldReport"
  | .mldDone => "MldDone"
  | .routerSolicit => "RouterSolicit"
  | .routerAdvert => "RouterAdvert"
  | .neighborSolicit => "NeighborSolicit"
  | .neighborAdvert => "NeighborAdvert"
  | .redirect => "Redirect"
  | .routerRenumber => "RouterRenumber"
  | .nodeInfoQuery => "NodeInfoQuery"
  | .nodeInfoReply => "NodeInfoReply"
  | .inverseSolicit => "InverseSolicit"
  | .inverseAdvert => "InverseAdvert"
  | .homeAgentRequest => "HomeAgentRequest"
  | .homeAgentReply => "HomeAgentReply"
  | .mobilePrefixSolicit => "MobilePrefixSolicit"
  | .mobilePrefixAdvert => "MobilePrefixAdvert"
  | .unknown value => "Unknown(" ++ toString value.toNat ++ ")"

/-- The text shown for a message type. -/
def describe : Icmpv6Type → String
  | .unknown value => toString value.toNat
  | type => type.name

end Icmpv6Type

/-- What an ICMPv6 message is made of. -/
inductive Icmpv6Layout
  /-- A header of the given length, then the leading part of the offending datagram. -/
  | embedded (length : Nat)
  /-- A header of the given length, behind which nothing is dissected. -/
  | fixed (length : Nat)
  deriving DecidableEq, Repr

/-- The layout of the messages of a type, if the type is known.

Options of neighbour discovery are not walked: the length covers the fixed part of a message. -/
def Icmpv6Type.layout? : Icmpv6Type → Option Icmpv6Layout
  | .dstUnreachable | .timeExceeded | .paramProblem => some (.embedded 8)
  | .echoRequest | .echoReply | .routerSolicit => some (.fixed 8)
  | .routerAdvert => some (.fixed 16)
  | .neighborSolicit | .neighborAdvert => some (.fixed 24)
  | .redirect => some (.fixed 40)
  | .unknown _ => none
  | _ => some (.fixed 4)

end FrameSpans
