import FrameSpans.Descriptor.View
import FrameSpans.Descriptor.Writer
import FrameSpans.Dissector.Basic

/-!
# The descriptor of a dissection

Writes what a dissector knows of a packet, in either of the two ways to write a descriptor.
-/

namespace FrameSpans.Dissector

/-- Writes the descriptor field by field. -/
def writeFields (d : Dissector) (out : Octets) (endian : Endian) : Except Error Nat × Octets :=
  Descriptor.writeFields d.header d.records out endian

/-- Writes the descriptor word by word. -/
def writePacked (d : Dissector) (out : Octets) (endian : Endian) : Except Error Nat × Octets :=
  Descriptor.writePacked d.header d.records out endian

end FrameSpans.Dissector
