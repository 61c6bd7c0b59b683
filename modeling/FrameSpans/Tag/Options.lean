/-!
# Option kinds

IPv4 and TCP headers end in a list of options. The first octet of an option tells its kind. In both
registries the kinds 0 and 1 are single octets, every other option has a length in its second octet.
-/

namespace FrameSpans

/-! ## IPv4 options -/

/-- The type octet of an IPv4 option: copied flag, class and number. -/
inductive Ipv4OptionType
  /-- The options end here. -/
  | endOfList
  /-- Padding. -/
  | noOperation
  /-- Record the route. -/
  | recordRoute
  /-- Record timestamps. -/
  | timestamp
  /-- Loose source route. -/
  | looseRoute
  /-- Security label. -/
  | security
  /-- Stream identifier. -/
  | streamId
  /-- Strict source route. -/
  | strictRoute
  /-- Router alert. -/
  | routerAlert
  /-- A value without built-in handling. -/
  | unknown (value : UInt8)
  deriving DecidableEq, Ord, Repr

namespace Ipv4OptionType

/-- The tag of a value. -/
def ofValue : UInt8 → Ipv4OptionType
  | 0x00 => .endOfList
  | 0x01 => .noOperation
  | 0x07 => .recordRoute
  | 0x44 => .timestamp
  | 0x83 => .looseRoute
  | 0x82 => .security
  | 0x88 => .streamId
  | 0x89 => .strictRoute
  | 0x94 => .routerAlert
  | value => .unknown value

/-- The value of a tag. -/
def value : Ipv4OptionType → UInt8
  | .endOfList => 0x00
  | .noOperation => 0x01
  | .recordRoute => 0x07
  | .timestamp => 0x44
  | .looseRoute => 0x83
  | .security => 0x82
  | .streamId => 0x88
  | .strictRoute => 0x89
  | .routerAlert => 0x94
  | .unknown value => value

/-- A value survives being made a tag. -/
@[simp] theorem value_ofValue (v : UInt8) : (ofValue v).value = v := by
  unfold ofValue
  split <;> rfl

/-- The name of a tag in diagnostics. -/
def name : Ipv4OptionType → String
  | .endOfList => "EndOfList"
  | .noOperation => "NoOperation"
  | .recordRoute => "RecordRoute"
  | .timestamp => "Timestamp"
  | .looseRoute => "LooseRoute"
  | .security => "Security"
  | .streamId => "StreamId"
  | .strictRoute => "StrictRoute"
  | .routerAlert => "RouterAlert"
  | .unknown value => "Unknown(" ++ toString value.toNat ++ ")"

/-- Whether the option is a single octet without a length. -/
def isSingleOctet : Ipv4OptionType → Bool
  | .endOfList | .noOperation => true
  | _ => false

/-- The option number, the low five bits of the type. -/
def number (type : Ipv4OptionType) : Nat :=
  (type.value &&& 0x1f).toNat

end Ipv4OptionType

/-! ## TCP options -/

/-- The kind octet of a TCP option. -/
inductive TcpOptionKind
  /-- The options end here. -/
  | endOfList
  /-- Padding. -/
  | noOperation
  /-- Maximum segment size. -/
  | maxSegmentSize
  /-- Window scale. -/
  | windowScale
  /-- Selective acknowledgement permitted. -/
  | sackPermitted
  /-- Selective acknowledgement. -/
  | sackRange
  /-- Timestamps. -/
  | timestamp
  /-- Fast open cookie. -/
  | fastOpen
  /-- A value without built-in handling. -/
  | unknown (value : UInt8)
  deriving DecidableEq, Ord, Repr

namespace TcpOptionKind

/-- The tag of a value. -/
def ofValue : UInt8 → TcpOptionKind
  | 0x00 => .endOfList
  | 0x01 => .noOperation
  | 0x02 => .maxSegmentSize
  | 0x03 => .windowScale
  | 0x04 => .sackPermitted
  | 0x05 => .sackRange
  | 0x08 => .timestamp
  | 0x22 => .fastOpen
  | value => .unknown value

/-- The value of a tag. -/
def value : TcpOptionKind → UInt8
  | .endOfList => 0x00
  | .noOperation => 0x01
  | .maxSegmentSize => 0x02
  | .windowScale => 0x03
  | .sackPermitted => 0x04
  | .sackRange => 0x05
  | .timestamp => 0x08
  | .fastOpen => 0x22
  | .unknown value => value

/-- A value survives being made a tag. -/
@[simp] theorem value_ofValue (v : UInt8) : (ofValue v).value = v := by
  unfold ofValue
  split <;> rfl

/-- The name of a tag in diagnostics. -/
def name : TcpOptionKind → String
  | .endOfList => "EndOfList"
  | .noOperation => "NoOperation"
  | .maxSegmentSize => "MaxSegmentSize"
  | .windowScale => "WindowScale"
  | .sackPermitted => "SackPermitted"
  | .sackRange => "SackRange"
  | .timestamp => "Timestamp"
  | .fastOpen => "FastOpen"
  | .unknown value => "Unknown(" ++ toString value.toNat ++ ")"

/-- Whether the option is a single octet without a length. -/
def isSingleOctet : TcpOptionKind → Bool
  | .endOfList | .noOperation => true
  | _ => false

end TcpOptionKind

end FrameSpans
