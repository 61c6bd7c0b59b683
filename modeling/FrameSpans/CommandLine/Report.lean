import FrameSpans.CommandLine.Settings
import FrameSpans.Dissector.Descent
import FrameSpans.Dissector.Output
import FrameSpans.Text.Frame
import FrameSpans.Tunnel

/-!
# Reports

A run puts the parts of the frame together, dissects it and writes its descriptor. The report of a
run shows the spans and the octets of the descriptor.

The dissector takes no capture that is longer than the packet was on the wire: its assertions would
put an end to the whole program, without a report and without an error. So a run compares the two
lengths itself, before it hands over the frame. `execute` tells a run that was put an end to apart
from one that returned (`RunOutcome`), and since the former does not happen
(`execute_ne_aborted`), every run has a result (`run`).
-/

namespace FrameSpans.CommandLine

/-- Why a run fails. -/
inductive RunError
  /-- A part of the frame is not hexadecimal. -/
  | frame (error : Text.FrameError)
  /-- The wire length is below the length of the frame. -/
  | wireLength (wireLength captureLength : Nat)
  /-- The descriptor can not be written. -/
  | descriptor (error : Error)
  deriving DecidableEq, Repr

/-- The text shown for a run that fails. -/
def RunError.message : RunError → String
  | .frame error => error.message
  | .wireLength wire captured =>
    "wire length " ++ toString wire ++ " is shorter than the " ++ toString captured
      ++ " octet frame"
  | .descriptor error => "descriptor: " ++ error.message

/-- The report of a run. -/
structure Report where
  /-- The number of octets of the frame. -/
  captureLength : Nat
  /-- The number of octets of the frame on the wire. -/
  wireLength : Nat
  /-- The spans found. -/
  spans : List Span
  /-- The byte order of the descriptor. -/
  endian : Endian
  /-- The octets of the descriptor. -/
  descriptor : Octets
  /-- What happened during the dissection. -/
  events : List Event
  deriving DecidableEq, Repr

/-- The octets of the parts of a frame, one behind the other. -/
def joinFrame : List String → Except Text.FrameError Octets
  | [] => .ok #[]
  | part :: rest =>
    match Text.parseFrame part with
    | .error error => .error error
    | .ok octets =>
      match joinFrame rest with
      | .error error => .error error
      | .ok more => .ok (octets ++ more)

/-- The handlers that the settings ask for. -/
def Settings.registry (settings : Settings) : Registry × Except Error Unit :=
  if settings.noTunnels then (.empty, .ok ()) else Registry.empty.registerAll Tunnel.handlers

/-- What came of a run. -/
inductive RunOutcome
  /-- The run returned, with a report or with the reason why there is none. -/
  | returned (result : Except RunError Report)
  /-- The dissector did not take the capture, and the program was aborted. -/
  | aborted (cause : Dissector.CaptureError)

/-- Writes the descriptor of a frame that was dissected. -/
def reportOf (settings : Settings) (frame : Octets) (wireLength : Nat) (traced : Traced) :
    Except RunError Report :=
  let (dissector, events) := traced
  let blank := Array.replicate Layout.maxSize 0
  let (written, out) :=
    if settings.packed then dissector.writePacked blank settings.endian
    else dissector.writeFields blank settings.endian
  match written with
  | .error error => .error (.descriptor error)
  | .ok size =>
    .ok { captureLength := frame.size, wireLength, spans := dissector.spans,
          endian := settings.endian, descriptor := out.extract 0 size, events }

/-- Dissects a frame and writes its descriptor, unless the frame is longer than the packet was on the
wire. -/
def runFrame (settings : Settings) (registry : Registry) (frame : Octets) : RunOutcome :=
  let wireLength := settings.wireLength.getD frame.size
  if wireLength < frame.size then .returned (.error (.wireLength wireLength frame.size))
  else
    let fresh : Dissector := { config := settings.config, registry := some registry }
    match fresh.reset.dissect frame frame.size wireLength settings.timestamp with
    | .error cause => .aborted cause
    | .ok traced => .returned (reportOf settings frame wireLength traced)

/-- Dissects the frame of the settings and writes its descriptor. -/
def execute (settings : Settings) : RunOutcome :=
  match joinFrame settings.frame with
  | .error error => .returned (.error (.frame error))
  | .ok frame =>
    match settings.registry with
    | (_, .error error) => .returned (.error (.descriptor error))
    | (registry, .ok ()) => runFrame settings registry frame

/-- The dissector takes every frame that a run hands over. -/
theorem runFrame_ne_aborted (settings : Settings) (registry : Registry) (frame : Octets)
    (cause : Dissector.CaptureError) : runFrame settings registry frame ≠ .aborted cause := by
  intro aborted
  unfold runFrame at aborted
  dsimp only at aborted
  split at aborted
  · cases aborted
  · next wired =>
    -- Both lengths are as the dissector asserts.
    rw [Dissector.dissect, if_neg (Nat.lt_irrefl _), if_neg wired] at aborted
    dsimp only at aborted
    split at aborted
    · next refused =>
      split at refused <;> cases refused
    · cases aborted

/-- No run is aborted. -/
theorem execute_ne_aborted (settings : Settings) (cause : Dissector.CaptureError) :
    execute settings ≠ .aborted cause := by
  intro aborted
  unfold execute at aborted
  split at aborted
  · cases aborted
  · next frame _ =>
    split at aborted
    · cases aborted
    · next registry _ => exact runFrame_ne_aborted settings registry frame cause aborted

/-- The result of a run. -/
def run (settings : Settings) : Except RunError Report :=
  match ended : execute settings with
  | .returned result => result
  | .aborted cause => absurd ended (execute_ne_aborted settings cause)

/-! ## Text -/

/-- The line of a span. -/
def spanLine (span : Span) : String :=
  "  " ++ Text.padRight 12 span.id.name ++ " " ++ Text.padLeft ' ' 5 (toString span.offset)
    ++ " .. " ++ Text.padRight 5 (toString (span.offset + span.length))
    ++ " (" ++ toString span.length ++ ")\n"

/-- The line of the octets from `offset` on. -/
def octetLine (offset : Nat) (octets : List UInt8) : String :=
  "  " ++ Text.hex 4 offset ++ " "
    ++ String.join (octets.map fun octet => " " ++ Text.hex 2 octet.toNat) ++ "\n"

/-- The lines of sixteen octets each, from `offset` on. -/
def octetLines (offset : Nat) (octets : List UInt8) : String :=
  if octets.isEmpty then ""
  else octetLine offset (octets.take 16) ++ octetLines (offset + 16) (octets.drop 16)
termination_by octets.length
decreasing_by
  have : octets ≠ [] := by simpa using ‹¬octets.isEmpty = true›
  have := List.length_pos_iff.mpr this
  simp only [List.length_drop]
  omega

/-- The text of a report, if its descriptor can be read back. -/
def Report.text? (report : Report) : Option String :=
  match Descriptor.ofOctets report.descriptor report.endian with
  | .error _ => none
  | .ok descriptor =>
    let header := descriptor.header
    some ("captured " ++ toString report.captureLength ++ " of " ++ toString report.wireLength
      ++ " octets\n"
      ++ String.join (report.spans.map spanLine)
      ++ "l2 " ++ header.l2Type.name ++ ", bitmask " ++ Text.hexMarked 8 header.bitmask.bits.toNat
      ++ ", fragment " ++ toString header.isFragment ++ "/" ++ toString header.isLastFragment
      ++ "\n"
      ++ "descriptor, " ++ toString descriptor.size ++ " octets " ++ report.endian.name
      ++ " endian:\n"
      ++ octetLines 0 report.descriptor.toList)

end FrameSpans.CommandLine
