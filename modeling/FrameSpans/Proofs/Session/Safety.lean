import FrameSpans.Proofs.Dissector.Safety
import FrameSpans.Proofs.Session.Reachable

/-!
# Sessions without faults

A session whose handlers are tunnel handlers never faults (`session_safe`): a capture is refused
only if the buffer is too short or the packet was shorter on the wire, and all else, malformed or
cut off anywhere, is dissected without an access outside the octets, a position that is no offset, a
record outside the table or a depth that is no octet.

The only thing that is asked of a session is that its frames are no longer than `maxFrame`, the
greatest size of an object in memory. It leaves room for the overhang of a header.
-/

namespace FrameSpans

/-- The greatest number of octets of a frame. -/
def maxFrame : Nat := 2 ^ 63 - 1

/-- A frame of no more octets leaves room for the overhang of a header. -/
theorem roomy_of_le_maxFrame {size : Nat} (h : size ≤ maxFrame) : Roomy size := by
  unfold maxFrame at h
  unfold Roomy overhang offsetBound
  omega

/-- Whether an operation hands over a frame that can exist. -/
def Operation.Fits : Operation → Prop
  | .dissect buffer .. => buffer.size ≤ maxFrame
  | _ => True

/-- A dissection, or a part of it, that came to an end without a fault. -/
structure Dissector.RunsSafely (d : Dissector) (traced : Traced) : Prop where
  /-- No octet outside the capture was accessed, and no position left the range of offsets. -/
  safe : SafeTrace traced.2
  /-- Each recorded span took one place of the table. -/
  recordCount_eq : traced.1.recordCount = d.recordCount + traced.2.countP Event.isStored
  /-- The table had that place. -/
  recordCount_le : traced.1.recordCount ≤ maxRecords
  /-- A record that was exchanged is one of the table. -/
  index_lt : ∀ index span, .widened index span ∈ traced.2 → index < maxRecords
  /-- The depth is held in an octet. -/
  depth_lt : ∀ depth, .entered depth ∈ traced.2 → depth < 256

namespace Dissector

/-- An evolution of a well-formed dissector runs safely if its events are safe. -/
theorem WellFormed.runsSafely {d d' : Dissector} {events : List Event} (h : d.WellFormed)
    (evolved : Evolves d events d') (safe : SafeTrace events) : d.RunsSafely (d', events) where
  safe := safe
  recordCount_eq := evolved.recordCount_eq
  recordCount_le := (h.evolve evolved).recordCount_le
  index_lt _ _ widened :=
    Nat.lt_of_lt_of_le (evolved.index_lt widened) (h.evolve evolved).recordCount_le
  depth_lt _ entered := Nat.lt_of_le_of_lt (evolved.depth_le entered) d.config.maxDepth.toNat_lt

/-- What holds between the operations of a session with tunnel handlers. -/
structure Tunnelling (d : Dissector) : Prop where
  /-- The capture is one that can exist. -/
  captureLength_le : d.captureLength ≤ maxFrame
  /-- Every handler is a tunnel handler. -/
  tunnels : ∀ registry, d.registry = some registry →
    ∀ entry ∈ registry.entries, Tunnel.IsHandler entry.2

/-- A dissector with tunnel handlers is secured. -/
theorem Tunnelling.secured {d : Dissector} (h : d.Tunnelling) : d.Secured where
  roomy := roomy_of_le_maxFrame h.captureLength_le
  sound registry found entry member := (h.tunnels registry found entry member).sound

/-- An evolution keeps the capture and the handlers. -/
theorem Tunnelling.evolve {d d' : Dissector} {events : List Event} (h : d.Tunnelling)
    (evolved : Evolves d events d') : d'.Tunnelling where
  captureLength_le := by
    rw [evolved.keeps.captureLength_eq]
    exact h.captureLength_le
  tunnels := by
    rw [evolved.keeps.registry_eq]
    exact h.tunnels

/-- Setting out to dissect a capture of a frame that can exist keeps the handlers. -/
theorem Tunnelling.started {d : Dissector} (h : d.Tunnelling) {captureLength : Nat}
    (fits : captureLength ≤ maxFrame) (wireLength : Nat) (timestamp : UInt64) :
    (d.started captureLength wireLength timestamp).Tunnelling :=
  ⟨fits, h.tunnels⟩

/-- Setting something keeps the capture and the handlers. -/
theorem Tunnelling.set {d d' : Dissector} (h : d.Tunnelling) (same : d.SamePacket d') :
    d'.Tunnelling where
  captureLength_le := by
    rw [same.captureLength_eq]
    exact h.captureLength_le
  tunnels := by
    rw [same.registry_eq]
    exact h.tunnels

/-- An operation keeps the handlers, and captures frames that can exist. -/
theorem Tunnelling.performed {d : Dissector} (h : d.Tunnelling) {operation : Operation}
    (fits : operation.Fits) {traced : Traced} (performed : d.Performs operation traced) :
    traced.1.Tunnelling := by
  cases performed with
  | reset => exact ⟨Nat.zero_le _, h.tunnels⟩
  | set _ same => exact h.set same
  | evolve _ evolved => exact h.evolve evolved
  | capture held evolved => exact (h.started (Nat.le_trans held fits) _ _).evolve evolved

/-- Dissecting an encapsulated packet runs safely. -/
theorem runsSafely_dissectInner {d : Dissector} (wellFormed : d.WellFormed) (h : d.Tunnelling)
    (inner : Encapsulation) (data : Octets) (offset : Nat) :
    d.RunsSafely (d.dissectInner inner data offset) :=
  wellFormed.runsSafely (d.evolves_dissectInner inner data offset)
    (safe_dissectInner h.secured inner data offset)

/-- Dissecting a capture of a frame that can exist runs safely. -/
theorem runsSafely_dissect {d : Dissector} (wellFormed : d.WellFormed) (h : d.Tunnelling)
    {buffer : Octets} {captureLength wireLength : Nat} {timestamp : UInt64}
    (fits : buffer.size ≤ maxFrame) {traced : Traced}
    (dissected : d.dissect buffer captureLength wireLength timestamp = .ok traced) :
    d.RunsSafely traced := by
  obtain ⟨held, -, evolved⟩ := evolves_dissect dissected
  have secured := (h.started (Nat.le_trans held fits) wireLength timestamp).secured
  have ran := (wellFormed.started captureLength wireLength timestamp).runsSafely evolved
    (safe_dissect secured dissected)
  exact ⟨ran.safe, ran.recordCount_eq, ran.recordCount_le, ran.index_lt, ran.depth_lt⟩

end Dissector

/-- Whatever the policy, the ports and ids of the tunnel handlers, and the operations, the dissector
of a session refuses a capture only if the buffer does not hold it or the packet was shorter on the
wire; and captures of frames that can exist, as well as encapsulated packets in any octets at any
offset, are dissected safely. -/
theorem session_safe (config : Config) (registry : Option Registry) (operations : List Operation)
    (tunnels : ∀ found, registry = some found →
      ∀ entry ∈ found.entries, Tunnel.IsHandler entry.2)
    (fits : ∀ operation ∈ operations, operation.Fits) :
    let d := ((Session.start config registry).run operations).dissector
    (∀ buffer captureLength wireLength timestamp, buffer.size ≤ maxFrame →
      ((∃ error, d.dissect buffer captureLength wireLength timestamp = .error error) ↔
        buffer.size < captureLength ∨ wireLength < captureLength) ∧
      ∀ traced, d.dissect buffer captureLength wireLength timestamp = .ok traced →
        d.RunsSafely traced) ∧
    ∀ inner data offset, d.RunsSafely (d.dissectInner inner data offset) := by
  intro d
  have wellFormed : d.WellFormed := Session.wellFormed_run config registry operations
  have begun : (Session.start config registry).dissector.Tunnelling := ⟨Nat.zero_le _, tunnels⟩
  have tunnelling : d.Tunnelling :=
    Session.dissector_run
      (fun d operation member h => h.performed (fits operation member) (d.performs operation)) begun
  constructor
  · intro buffer captureLength wireLength timestamp frame
    constructor
    · exact d.dissect_eq_error_iff buffer captureLength wireLength timestamp
    · intro traced dissected
      exact Dissector.runsSafely_dissect wellFormed tunnelling frame dissected
  · intro inner data offset
    exact Dissector.runsSafely_dissectInner wellFormed tunnelling inner data offset

/-- The tunnel handlers on their assigned ports, asked about a VXLAN header that ends with the
capture and about octets behind the last offset. -/
theorem session_safe_vxlan :
    let frame : Octets :=
      #[2, 0, 0, 0, 0, 1, 2, 0, 0, 0, 0, 2, 0x08, 0x00, 0x45, 0, 0, 36, 0, 0, 0, 0, 64, 17, 0, 0,
        10, 0, 0, 1, 10, 0, 0, 2, 0x12, 0xb5, 0x12, 0xb5, 0, 16, 0, 0, 8, 0, 0, 0, 0, 0, 1, 0]
    let operations : List Operation := [.dissect frame 49 49 0, .dissect frame 50 60 1]
    let registry : Registry := ⟨Tunnel.handlers, by decide⟩
    let d := ((Session.start {} (some registry)).run operations).dissector
    (∀ entry ∈ registry.entries, Tunnel.IsHandler entry.2) ∧
      (∀ operation ∈ operations, operation.Fits) ∧
      (∃ error, d.dissect frame 51 60 0 = .error error) ∧
      d.RunsSafely (d.dissectInner .frame frame (2 ^ 64 - 1)) := by
  intro frame operations registry d
  have tunnels : ∀ found, some registry = some found →
      ∀ entry ∈ found.entries, Tunnel.IsHandler entry.2 := by
    rintro found ⟨⟩ entry member
    exact Tunnel.isHandler_of_mem_handlers member
  have fits : ∀ operation ∈ operations, operation.Fits := by
    have size : frame.size ≤ maxFrame := by decide
    intro operation member
    rcases List.mem_cons.mp member with rfl | member
    · exact size
    · cases List.mem_singleton.mp member
      exact size
  obtain ⟨captures, inner⟩ := session_safe {} (some registry) operations tunnels fits
  have short : frame.size < 51 ∨ 60 < 51 := .inl (by decide)
  exact ⟨tunnels registry rfl, fits, (captures frame 51 60 0 (by decide)).1.mpr short,
    inner .frame frame (2 ^ 64 - 1)⟩

end FrameSpans
