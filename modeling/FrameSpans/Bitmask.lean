import FrameSpans.ProtocolId
import FrameSpans.Text.Base16

/-!
# Sets of ordinals

A `Bitmask` is a set of ordinals in one word. The class of an id plays no part in it: whoever keeps
a set knows which class it is about.
-/

namespace FrameSpans

/-- A set of ordinals, one bit each. -/
structure Bitmask where
  /-- The bits of the set. -/
  bits : UInt32
  deriving DecidableEq, Repr

namespace Bitmask

/-- The set that holds nothing. -/
def empty : Bitmask := ⟨0⟩

/-- The set that holds every ordinal. -/
def all : Bitmask := ⟨0xffffffff⟩

/-- The one bit that stands for the ordinal of an id. -/
def bit (id : ProtocolId) : UInt32 :=
  1 <<< UInt32.ofNat id.ordinal

/-- The set with the ordinal of an id added. -/
def insert (mask : Bitmask) (id : ProtocolId) : Bitmask :=
  ⟨mask.bits ||| bit id⟩

/-- Whether the ordinal of an id is in the set. -/
def contains (mask : Bitmask) (id : ProtocolId) : Bool :=
  mask.bits &&& bit id != 0

/-- Whether the set holds nothing. -/
def isEmpty (mask : Bitmask) : Bool :=
  mask.bits == 0

/-- The text shown for a set in diagnostics. -/
def describe (mask : Bitmask) : String :=
  "Bitmask(" ++ Text.hexMarked 8 mask.bits.toNat ++ ")"

end Bitmask

end FrameSpans
