/-!
# Link layer framing

The kind of framing a packet was found in, as a field of the descriptor.
-/

namespace FrameSpans

/-- The link layer framing of a packet. -/
inductive L2Type
  /-- Ethernet II with an ethertype. -/
  | ethernet
  /-- 802.3 with an LLC header. -/
  | llc
  /-- 802.3 with LLC and SNAP headers. -/
  | snap
  /-- 802.3 that carries IPX directly. -/
  | novellRaw
  /-- No link layer: the capture starts with the IP header. -/
  | rawIp
  /-- A value without built-in handling. -/
  | unknown (value : UInt8)
  deriving DecidableEq, Ord, Repr

namespace L2Type

/-- The tag of a value. -/
def ofValue : UInt8 → L2Type
  | 0 => .ethernet
  | 1 => .llc
  | 2 => .snap
  | 3 => .novellRaw
  | 4 => .rawIp
  | value => .unknown value

/-- The value of a tag. -/
def value : L2Type → UInt8
  | .ethernet => 0
  | .llc => 1
  | .snap => 2
  | .novellRaw => 3
  | .rawIp => 4
  | .unknown value => value

/-- A value survives being made a tag. -/
@[simp] theorem value_ofValue (v : UInt8) : (ofValue v).value = v := by
  unfold ofValue
  split <;> rfl

/-- Whether the framing is one with built-in handling. -/
def isKnown : L2Type → Bool
  | .unknown _ => false
  | _ => true

/-- The name of a tag in diagnostics. -/
def name : L2Type → String
  | .ethernet => "Ethernet"
  | .llc => "Llc"
  | .snap => "Snap"
  | .novellRaw => "NovellRaw"
  | .rawIp => "RawIp"
  | .unknown value => "Unknown(" ++ toString value.toNat ++ ")"

end L2Type

end FrameSpans
