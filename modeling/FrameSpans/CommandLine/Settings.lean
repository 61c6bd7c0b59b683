import FrameSpans.Config
import FrameSpans.Octets

/-!
# Settings of a run

What the command line asks for: the frame and how to dissect it.
-/

namespace FrameSpans.CommandLine

/-- What to dissect, and how. -/
structure Settings where
  /-- The parts of the frame, in hexadecimal. -/
  frame : List String
  /-- The frame starts with an IP header. -/
  rawIp : Bool := false
  /-- The length of the frame on the wire, if it is not the captured length. -/
  wireLength : Option Nat := none
  /-- The timestamp of the frame. -/
  timestamp : UInt64 := 0
  /-- The byte order of the descriptor. -/
  endian : Endian := .native
  /-- The descriptor is written word by word. -/
  packed : Bool := false
  /-- Every protocol is reported as present. -/
  allProtocols : Bool := false
  /-- Neither options nor extension headers are recorded. -/
  noOptions : Bool := false
  /-- The classes of which no option is recorded. -/
  disabled : List Class := []
  /-- No tunnel handler is registered. -/
  noTunnels : Bool := false
  /-- How many levels of encapsulation are entered. -/
  maxDepth : UInt8 := 4
  /-- How much of the log is shown. -/
  verbosity : UInt8 := 0
  deriving DecidableEq, Repr

/-- The recording policy that the settings ask for. -/
def Settings.config (settings : Settings) : Config :=
  let plain : Config :=
    { link := if settings.rawIp then .rawIp else .ethernet, maxDepth := settings.maxDepth }
  let reported := if settings.allProtocols then plain.reportAllProtocols else plain
  let recorded := if settings.noOptions then reported.withoutOptions else reported
  settings.disabled.foldl (fun config kind => config.disable kind []) recorded

end FrameSpans.CommandLine
