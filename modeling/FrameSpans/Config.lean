import FrameSpans.Bitmask

/-!
# Recording policy

What is recorded of a packet, and how far encapsulation is followed. A configuration is a plain
value: it can be exchanged between two packets.
-/

namespace FrameSpans

/-- The framing at the start of a capture. -/
inductive LinkType
  /-- Ethernet II, or 802.3 with LLC, SNAP or raw IPX. -/
  | ethernet
  /-- The capture starts with an IPv4 or IPv6 header. -/
  | rawIp
  deriving DecidableEq, Repr

/-- The recording policy of a dissector. -/
structure Config where
  /-- The link layer of the captures. -/
  link : LinkType := .ethernet
  /-- The set of protocols a packet starts with. -/
  defaultBitmask : Bitmask := .empty
  /-- Whether options and extension headers are recorded at all. The headers that hold them are
  recorded either way. -/
  recordsOptions : Bool := true
  /-- IPv4 options that are not recorded. -/
  ipv4Disabled : Bitmask := .empty
  /-- IPv6 extension headers that are not recorded. -/
  ipv6Disabled : Bitmask := .empty
  /-- TCP options that are not recorded. -/
  tcpDisabled : Bitmask := .empty
  /-- How many encapsulated packets are entered below the outermost one. -/
  maxDepth : UInt8 := 4
  deriving DecidableEq, Repr

namespace Config

/-- Reports every protocol as present in every packet. -/
def reportAllProtocols (config : Config) : Config :=
  { config with defaultBitmask := .all }

/-- Records neither options nor extension headers. -/
def withoutOptions (config : Config) : Config :=
  { config with recordsOptions := false }

/-- The ids of a class that are not recorded. Protocol headers are always recorded. -/
def disabled (config : Config) : Class → Bitmask
  | .protocol => .empty
  | .ipv4Option => config.ipv4Disabled
  | .ipv6Extension => config.ipv6Disabled
  | .tcpOption => config.tcpDisabled

/-- A set with the given ids of a class added, or the full set when no id is given. -/
def suppress (kind : Class) (ids : List ProtocolId) (mask : Bitmask) : Bitmask :=
  if ids.isEmpty then .all
  else (ids.filter (·.kind == kind)).foldl Bitmask.insert mask

/-- Stops recording options or extension headers of one class: those with the given ids, or all of
them when no id is given. Ids of other classes are passed over, and protocol headers can not be
disabled. -/
def disable (config : Config) (kind : Class) (ids : List ProtocolId) : Config :=
  match kind with
  | .protocol => config
  | .ipv4Option => { config with ipv4Disabled := suppress kind ids config.ipv4Disabled }
  | .ipv6Extension => { config with ipv6Disabled := suppress kind ids config.ipv6Disabled }
  | .tcpOption => { config with tcpDisabled := suppress kind ids config.tcpDisabled }

/-- Whether an option or extension header with the given id is recorded. -/
def recordsOption (config : Config) (id : ProtocolId) : Bool :=
  config.recordsOptions && !(config.disabled id.kind).contains id

end Config

end FrameSpans
