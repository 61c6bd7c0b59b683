import FrameSpans.Config
import FrameSpans.Descriptor.Header
import FrameSpans.Descriptor.Layout
import FrameSpans.Dissector.Event
import FrameSpans.Registry

/-!
# Dissectors

A dissector holds what is known of one packet: the table of its spans, as words, and its scalars.
Every span goes through `Dissector.offer` or, when it replaces a record, through `Dissector.widen`.
Both give a new dissector only if the span ends within the capture and has a word, so whatever is
refused leaves everything as it was.

A step of a reading is taken by `Dissector.take`, which also tells what happened.
-/

namespace FrameSpans

/-- What is known of a packet. -/
structure Dissector where
  /-- The recording policy. -/
  config : Config := {}
  /-- The handlers to ask, if there are any to ask. -/
  registry : Option Registry := none
  /-- The scalars of the packet except its lengths. -/
  scalars : Scalars := { bitmask := config.defaultBitmask }
  /-- The number of captured octets. -/
  captureLength : Nat := 0
  /-- The number of octets of the packet on the wire. -/
  wireLength : Nat := 0
  /-- The words of the recorded spans. -/
  records : List UInt32 := []
  /-- How many encapsulated packets are being dissected, one inside the other. -/
  depth : Nat := 0
  /-- How many spans the table has room for; `none` is a table that never fills. -/
  capacity : Option Nat := some maxRecords

/-- What an action on a dissector made of it, and what happened. -/
abbrev Traced := Dissector × List Event

namespace Dissector

/-! ## Views -/

/-- The number of recorded spans. -/
def recordCount (d : Dissector) : Nat :=
  d.records.length

/-- The recorded spans. -/
def spans (d : Dissector) : List Span :=
  d.records.map .decode

/-- A length as a descriptor shows it. -/
def saturate (length : Nat) : UInt16 :=
  UInt16.ofNat (min length 65535)

/-- The scalars as a descriptor shows them. Lengths that do not fit are shown as the greatest one
that does. -/
def header (d : Dissector) : Header :=
  { d.scalars with
    captureLength := saturate d.captureLength
    wireLength := saturate d.wireLength }

/-- Whether the table has no room left. -/
def isFull (d : Dissector) : Bool :=
  match d.capacity with
  | none => false
  | some capacity => capacity ≤ d.recordCount

/-! ## Between packets -/

/-- Forgets the packet. The set of protocols starts with the default of the policy. -/
def reset (d : Dissector) : Dissector :=
  { d with
    scalars := { bitmask := d.config.defaultBitmask }
    captureLength := 0
    wireLength := 0
    records := []
    depth := 0 }

/-- Exchanges the policy. A changed default for the set of protocols counts from the next reset. -/
def setConfig (d : Dissector) (config : Config) : Dissector :=
  { d with config }

/-- Reports every protocol as present, the current packet included. -/
def reportAllProtocols (d : Dissector) : Dissector :=
  let config := d.config.reportAllProtocols
  { d with config, scalars := { d.scalars with bitmask := config.defaultBitmask } }

/-- Sets the flow hash and the algorithm that computed it. -/
def setHash (d : Dissector) (hash : UInt32) (hashType : UInt8) : Dissector :=
  { d with scalars := { d.scalars with hash, hashType } }

/-- Sets the port the packet was received on. -/
def setRxPort (d : Dissector) (rxPort : UInt8) : Dissector :=
  { d with scalars := { d.scalars with rxPort } }

/-- Sets the port the packet is to be sent on. -/
def setTxPort (d : Dissector) (txPort : UInt8) : Dissector :=
  { d with scalars := { d.scalars with txPort } }

/-- Sets the control flags. -/
def setTxFlags (d : Dissector) (txFlags : TxFlags) : Dissector :=
  { d with scalars := { d.scalars with txFlags } }

/-! ## Recording -/

/-- The word of a span that ends within the capture. -/
def wordFor (d : Dissector) (span : Span) : Except Refusal UInt32 :=
  match span.end? with
  | none => .error (.outside d.captureLength)
  | some stop =>
    if d.captureLength < stop then .error (.outside d.captureLength)
    else
      match span.encode with
      | .ok word => .ok word
      | .error _ => .error .unencodable

/-- Records a span. The id of a protocol header is added to the set of protocols. -/
def offer (d : Dissector) (span : Span) : Except Refusal Dissector :=
  if d.isFull then .error .full
  else
    match d.wordFor span with
    | .error refusal => .error refusal
    | .ok word =>
      let recorded := { d with records := d.records ++ [word] }
      if span.id.kind = .protocol then
        .ok { recorded with
              scalars := { d.scalars with bitmask := d.scalars.bitmask.insert span.id } }
      else .ok recorded

/-- Replaces the record at an index. The set of protocols stays as it is. -/
def widen (d : Dissector) (index : Nat) (span : Span) : Except Refusal Dissector :=
  if d.recordCount ≤ index then .error .vacant
  else
    match d.wordFor span with
    | .error refusal => .error refusal
    | .ok word => .ok { d with records := d.records.set index word }

/-- Records a span, if it is not refused. -/
def addSpan (d : Dissector) (span : Span) : Traced :=
  match d.offer span with
  | .ok recorded => (recorded, [.stored span])
  | .error reason => (d, [.refused span reason])

/-- Replaces the record at an index, if the span is not refused. -/
def updateSpan (d : Dissector) (index : Nat) (span : Span) : Traced :=
  match d.widen index span with
  | .ok widened => (widened, [.widened index span])
  | .error reason => (d, [.refused span reason])

/-! ## Steps of a reading -/

/-- Sets the framing of the capture. Encapsulated frames do not change it. -/
def setFraming (d : Dissector) (l2Type : L2Type) : Dissector :=
  if d.depth = 0 then { d with scalars := { d.scalars with l2Type } } else d

/-- Marks the packet as a fragment. -/
def setFragment (d : Dissector) (isLast : Bool) : Dissector :=
  { d with scalars := { d.scalars with isFragment := true, isLastFragment := isLast } }

/-- Takes a mark: an option is recorded if the policy asks for it. -/
def takeMark (d : Dissector) : Mark → Traced
  | .option span => if d.config.recordsOption span.id then d.addSpan span else (d, [])
  | .fragment isLast => (d.setFragment isLast, [.fragment isLast])

/-- Takes marks one after the other. -/
def takeMarks (d : Dissector) : List Mark → Traced
  | [] => (d, [])
  | mark :: rest =>
    let (first, events) := d.takeMark mark
    let (last, more) := first.takeMarks rest
    (last, events ++ more)

/-- Takes a header with its chain: the header is recorded, then the marks of the chain, and then the
record of the header is widened to cover the chain. Nothing is widened if the header was refused or
the chain is empty. -/
def takeChained (d : Dissector) (base : Span) (marks : List Mark) (length : Nat) : Traced :=
  match d.offer base with
  | .error reason =>
    -- There is no record to widen, but options may still find room.
    let (last, events) := d.takeMarks marks
    (last, .refused base reason :: events)
  | .ok recorded =>
    let (marked, events) := recorded.takeMarks marks
    let (last, more) :=
      -- The marks went behind the header, whose index is the number of records before it.
      if length = 0 then (marked, [])
      else marked.updateSpan d.recordCount { base with length := base.length + length }
    (last, .stored base :: events ++ more)

/-- Takes one step of a reading. -/
def take (d : Dissector) : Step → Traced
  | .header span => d.addSpan span
  | .mark mark => d.takeMark mark
  | .chained base marks length => d.takeChained base marks length
  | .framing type => (d.setFraming type, [])
  | .payload protocol offset parent => (d, [.payload protocol offset parent])
  | .remark remark => (d, [.remark remark])

/-- Takes steps one after the other. -/
def takeAll (d : Dissector) : List Step → Traced
  | [] => (d, [])
  | step :: rest =>
    let (first, events) := d.take step
    let (last, more) := first.takeAll rest
    (last, events ++ more)

end Dissector

end FrameSpans
