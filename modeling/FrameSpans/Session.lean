import FrameSpans.Dissector.Descent

/-!
# Sessions

A session is what becomes of a dissector that starts empty, while its owner performs one `Operation`
after the other. Besides the dissector it holds what happened since the last reset.
-/

namespace FrameSpans

/-- What the owner of a dissector can do with it. -/
inductive Operation
  /-- Forgets the packet. -/
  | reset
  /-- Exchanges the policy. -/
  | setConfig (config : Config)
  /-- Reports every protocol as present. -/
  | reportAllProtocols
  /-- Sets the flow hash. -/
  | setHash (hash : UInt32) (hashType : UInt8)
  /-- Sets the receive port. -/
  | setRxPort (rxPort : UInt8)
  /-- Sets the transmit port. -/
  | setTxPort (txPort : UInt8)
  /-- Sets the control flags. -/
  | setTxFlags (txFlags : TxFlags)
  /-- Offers a span. -/
  | addSpan (span : Span)
  /-- Offers a span in the place of a record. -/
  | updateSpan (index : Nat) (span : Span)
  /-- Dissects a capture. -/
  | dissect (buffer : Octets) (captureLength wireLength : Nat) (timestamp : UInt64)
  /-- Dissects an encapsulated packet. -/
  | dissectInner (inner : Encapsulation) (data : Octets) (offset : Nat)

namespace Operation

/-- Whether a capture was set out to be dissected since the last reset, when this operation follows.
-/
def dissected (before : Bool) : Operation → Bool
  | .reset => false
  | .dissect .. => true
  | _ => before

/-- Whether there is a reset between any two dissections of captures. -/
def separated (before : Bool) : List Operation → Bool
  | [] => true
  | .dissect .. :: rest => !before && separated true rest
  | operation :: rest => separated (operation.dissected before) rest

end Operation

namespace Dissector

/-- What an operation makes of a dissector, and what happens. An operation that is refused changes
nothing. -/
def perform (d : Dissector) : Operation → Traced
  | .reset => (d.reset, [])
  | .setConfig config => (d.setConfig config, [])
  | .reportAllProtocols => (d.reportAllProtocols, [])
  | .setHash hash hashType => (d.setHash hash hashType, [])
  | .setRxPort rxPort => (d.setRxPort rxPort, [])
  | .setTxPort txPort => (d.setTxPort txPort, [])
  | .setTxFlags txFlags => (d.setTxFlags txFlags, [])
  | .addSpan span => d.addSpan span
  | .updateSpan index span => d.updateSpan index span
  | .dissect buffer captureLength wireLength timestamp =>
    match d.dissect buffer captureLength wireLength timestamp with
    | .ok traced => traced
    | .error _ => (d, [])
  | .dissectInner inner data offset => d.dissectInner inner data offset

/-- Whether an operation is refused: a span that is offered, or a capture that can not be
dissected. -/
def refuses (d : Dissector) : Operation → Bool
  | .addSpan span => !(d.offer span).isOk
  | .updateSpan index span => !(d.widen index span).isOk
  | .dissect buffer captureLength wireLength timestamp =>
    !(d.dissect buffer captureLength wireLength timestamp).isOk
  | _ => false

end Dissector

/-- A dissector in use. -/
structure Session where
  /-- The dissector. -/
  dissector : Dissector
  /-- What happened since the last reset. -/
  events : List Event

namespace Session

/-- A session that starts with an empty dissector. -/
def start (config : Config) (registry : Option Registry) : Session where
  dissector := { config, registry }
  events := []

/-- An operation on the dissector. A reset starts a new trace. -/
def perform (session : Session) (operation : Operation) : Session :=
  let (dissector, events) := session.dissector.perform operation
  match operation with
  | .reset => ⟨dissector, []⟩
  | _ => ⟨dissector, session.events ++ events⟩

/-- Operations on the dissector, one after the other. -/
def run (session : Session) (operations : List Operation) : Session :=
  operations.foldl perform session

end Session

end FrameSpans
