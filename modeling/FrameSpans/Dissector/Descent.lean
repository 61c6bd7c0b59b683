import FrameSpans.Dissector.Basic
import FrameSpans.Reading.Level

/-!
# Dissecting a packet

A level is read, its steps are taken, and then its ending says how to go on: with an encapsulated
packet one level deeper, or by asking handlers, who may have packets dissected one level deeper in
their turn. Either way the number of levels left, `maxDepth` less the depth, goes down by one, and
`Dissector.descend` is a recursion on that number. No handler can make a dissection run on.

A stop inside a level that the packet itself led to ends the whole dissection. A stop inside a packet
that a handler asked for ends only that packet.
-/

namespace FrameSpans

/-- What a dissection, or a part of it, came to. -/
structure Outcome where
  /-- What is known of the packet. -/
  dissector : Dissector
  /-- What happened, in order. -/
  events : List Event
  /-- Why reading stopped, if it did. -/
  stop : Option Stop

/-- Dissects the packet that starts at `offset` of `data` one level deeper. -/
abbrev Descent := Entry → Octets → Nat → Dissector → Outcome

/-- Events in front of an outcome. -/
def Outcome.after (events : List Event) (outcome : Outcome) : Outcome :=
  { outcome with events := events ++ outcome.events }

/-- Dissects an encapsulated packet on behalf of a handler, who sees no more than the capture. -/
def Dissector.reenter (deeper : Descent) (d : Dissector) (inner : Encapsulation) (data : Octets)
    (offset : Nat) : Traced :=
  let outcome := deeper inner.entry (data.upTo d.captureLength) offset d
  match outcome.stop with
  | none => (outcome.dissector, outcome.events)
  | some stop =>
    (outcome.dissector, outcome.events ++ [.stopped (.encapsulated inner offset) stop])

/-- Grants the requests of a handler. -/
def Program.run (deeper : Descent) : Program → Dissector → Traced
  | .done, d => (d, [])
  | .fault, d => (d, [.handlerFault])
  | .note text next, d =>
    let (last, events) := next.run deeper d
    (last, .note text :: events)
  | .captureLength next, d => (next d.captureLength).run deeper d
  | .addSpan span next, d =>
    match d.offer span with
    | .ok recorded =>
      let (last, events) := (next true).run deeper recorded
      (last, .stored span :: events)
    | .error reason =>
      let (last, events) := (next false).run deeper d
      (last, .refused span reason :: events)
  | .dissect inner data offset next, d =>
    let (first, events) := d.reenter deeper inner data offset
    let (last, more) := next.run deeper first
    (last, events ++ more)

namespace Dissector

/-- Asks handlers one after the other. -/
def askAll (deeper : Descent) (call : Consultation) :
    List (Nat × Handler) → Dissector → Traced
  | [], d => (d, [])
  | (slot, handler) :: rest, d =>
    let (first, events) := (handler call).run deeper d
    let (last, more) := askAll deeper call rest first
    (last, .asked slot call :: events ++ more)

/-- Asks the handlers that are registered under the id of a consultation. -/
def consult (deeper : Descent) (call : Consultation) (d : Dissector) : Traced :=
  match d.registry, call.inquiry with
  | some registry, _ => askAll deeper call (registry.handlers call.id) d
  | none, .nextHeader value => (d, [.unhandled call.id value])
  | none, .ports _ _ => (d, [])

/-- Follows a reading of `data`: takes its steps and goes on as its ending says. -/
def follow (deeper : Descent) (data : Octets) (reading : Reading) (d : Dissector) : Outcome :=
  let (taken, events) := d.takeAll reading.steps
  match reading.ending with
  | .complete => ⟨taken, events, none⟩
  | .stopped stop => ⟨taken, events, some stop⟩
  -- What stops in a packet that the level itself led to stops the level as well.
  | .encapsulated entry offset => (deeper entry data offset taken).after events
  | .consult id offset inquiry =>
    let (last, more) := consult deeper ⟨data, offset, id, inquiry⟩ taken
    ⟨last, events ++ more, none⟩

/-- Dissects the packet that starts at `offset` of `data` one level deeper, if a level is left. The
depth is restored whether or not reading stopped. -/
def descend : Nat → Descent
  | 0, _, _, _, d => ⟨d, [.depthReached d.depth], none⟩
  | levels + 1, entry, data, offset, d =>
    let inner := follow (descend levels) data (Reading.read entry data offset)
      { d with depth := d.depth + 1 }
    -- Leaving is recorded whether or not reading stopped further in.
    { inner with
      dissector := { inner.dissector with depth := inner.dissector.depth - 1 }
      events := .entered (d.depth + 1) :: inner.events ++ [.left] }

/-- How many levels of encapsulation may still be entered. -/
def levelsLeft (d : Dissector) : Nat :=
  d.config.maxDepth.toNat - d.depth

/-- Dissects an encapsulated packet, as handlers ask for it. -/
def dissectInner (d : Dissector) (inner : Encapsulation) (data : Octets) (offset : Nat) : Traced :=
  d.reenter (descend d.levelsLeft) inner data offset

/-! ## Captures -/

/-- Why a capture can not be dissected. -/
inductive CaptureError
  /-- The capture is longer than the buffer that holds it. -/
  | buffer (captureLength size : Nat)
  /-- The packet is shorter on the wire than captured. -/
  | wire (wireLength captureLength : Nat)
  deriving DecidableEq, Repr

/-- The text shown for a capture that can not be dissected. -/
def CaptureError.message : CaptureError → String
  | .buffer captureLength size =>
    "capture length " ++ toString captureLength ++ " exceeds the buffer of " ++ toString size
      ++ " octets"
  | .wire wireLength captureLength =>
    "wire length " ++ toString wireLength ++ " is shorter than the capture length "
      ++ toString captureLength

/-- The reading of the outermost level of a capture. -/
def readLink (link : LinkType) (data : Octets) : Reading :=
  match link with
  | .ethernet => Reading.ethernet data 0
  | .rawIp => Reading.after [.framing .rawIp] (Reading.ip data 0)

/-- Dissects a capture of which the dissector knows the lengths already. -/
def dissectCapture (d : Dissector) (data : Octets) : Outcome :=
  follow (descend d.levelsLeft) data (readLink d.config.link data) d

/-- Dissects the first `captureLength` octets of a buffer, a packet that had `wireLength` octets on
the wire. The spans are added to those that the table already holds. -/
def dissect (d : Dissector) (buffer : Octets) (captureLength wireLength : Nat)
    (timestamp : UInt64) : Except CaptureError Traced :=
  if buffer.size < captureLength then .error (.buffer captureLength buffer.size)
  else if wireLength < captureLength then .error (.wire wireLength captureLength)
  else
    let started :=
      { d with captureLength, wireLength, scalars := { d.scalars with timestamp } }
    let outcome := started.dissectCapture (buffer.extract 0 captureLength)
    match outcome.stop with
    | none => .ok (outcome.dissector, outcome.events)
    | some stop =>
      .ok (outcome.dissector, outcome.events ++ [.stopped (.capture captureLength) stop])

end Dissector

end FrameSpans
