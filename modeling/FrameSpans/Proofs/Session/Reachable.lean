import FrameSpans.Proofs.Dissector.Walk
import FrameSpans.Session

/-!
# States that a session reaches

What an operation may make of a dissector is told once (`Dissector.performs`): it forgets the
packet, or it sets something that is no part of what was dissected, or the dissector evolves, after
it took over the lengths of a capture or without that. All invariants of sessions are proved from
these four cases.

Every operation keeps a dissector `WellFormed`: its table has the usual room and does not outgrow
it, its framing is a known one, and no packet is left entered. The dissector of a session is well
formed at all times (`Session.wellFormed_run`).
-/

namespace FrameSpans

/-! ## What an operation does -/

namespace Dissector

/-- What stays the same when an owner sets something. -/
structure SamePacket (d d' : Dissector) : Prop where
  /-- The handlers. -/
  registry_eq : d'.registry = d.registry
  /-- The number of captured octets. -/
  captureLength_eq : d'.captureLength = d.captureLength
  /-- The number of octets on the wire. -/
  wireLength_eq : d'.wireLength = d.wireLength
  /-- The records. -/
  records_eq : d'.records = d.records
  /-- The depth. -/
  depth_eq : d'.depth = d.depth
  /-- The room in the table. -/
  capacity_eq : d'.capacity = d.capacity
  /-- The framing. -/
  l2Type_eq : d'.scalars.l2Type = d.scalars.l2Type

/-- What an operation may make of a dissector, and what happens. -/
inductive Performs (d : Dissector) : Operation → Traced → Prop
  /-- The packet is forgotten. -/
  | reset : d.Performs .reset (d.reset, [])
  /-- The owner sets something. -/
  | set {operation : Operation} {d' : Dissector} (stays : operation ≠ .reset)
    (same : d.SamePacket d') : d.Performs operation (d', [])
  /-- The dissector evolves, or refuses the operation. -/
  | evolve {operation : Operation} {traced : Traced} (stays : operation ≠ .reset)
    (evolved : Evolves d traced.2 traced.1) : d.Performs operation traced
  /-- A capture is dissected. -/
  | capture {buffer : Octets} {captureLength wireLength : Nat} {timestamp : UInt64}
    {traced : Traced} (held : captureLength ≤ buffer.size)
    (evolved : Evolves (d.started captureLength wireLength timestamp) traced.2 traced.1) :
    d.Performs (.dissect buffer captureLength wireLength timestamp) traced

/-- Every operation does one of these. -/
theorem performs (d : Dissector) (operation : Operation) :
    d.Performs operation (d.perform operation) := by
  cases operation with
  | reset => exact .reset
  | setConfig | reportAllProtocols | setHash | setRxPort | setTxPort | setTxFlags =>
    exact .set nofun ⟨rfl, rfl, rfl, rfl, rfl, rfl, rfl⟩
  | addSpan span => exact .evolve nofun (d.evolves_addSpan span)
  | updateSpan index span => exact .evolve nofun (d.evolves_updateSpan index span)
  | dissectInner inner data offset =>
    exact .evolve nofun (d.evolves_dissectInner inner data offset)
  | dissect buffer captureLength wireLength timestamp =>
    unfold perform
    dsimp only
    split
    · next traced dissected =>
      obtain ⟨held, -, evolved⟩ := evolves_dissect dissected
      exact .capture held evolved
    · exact .evolve nofun (.nothing d)

/-! ## Well-formed dissectors -/

/-- What holds of a dissector between any two operations. -/
structure WellFormed (d : Dissector) : Prop where
  /-- The table has the usual room. -/
  capacity_eq : d.capacity = some maxRecords
  /-- The table does not outgrow its room. -/
  recordCount_le : d.recordCount ≤ maxRecords
  /-- The framing is a known one. -/
  known_framing : d.scalars.l2Type.isKnown = true
  /-- Every packet that was entered was left. -/
  depth_eq : d.depth = 0

/-- An evolution keeps a dissector well formed. -/
theorem WellFormed.evolve {d d' : Dissector} {events : List Event} (h : d.WellFormed)
    (evolved : Evolves d events d') : d'.WellFormed where
  capacity_eq := evolved.keeps.capacity_eq.trans h.capacity_eq
  recordCount_le := evolved.recordCount_le h.capacity_eq h.recordCount_le
  known_framing := evolved.known_framing h.known_framing
  depth_eq := evolved.keeps.depth_eq.trans h.depth_eq

/-- Setting something keeps a dissector well formed. -/
theorem WellFormed.set {d d' : Dissector} (h : d.WellFormed) (same : d.SamePacket d') :
    d'.WellFormed where
  capacity_eq := same.capacity_eq.trans h.capacity_eq
  recordCount_le := by
    rw [recordCount, same.records_eq]
    exact h.recordCount_le
  known_framing := by
    rw [same.l2Type_eq]
    exact h.known_framing
  depth_eq := same.depth_eq.trans h.depth_eq

/-- Setting out to dissect a capture keeps a dissector well formed. -/
theorem WellFormed.started {d : Dissector} (h : d.WellFormed) (captureLength wireLength : Nat)
    (timestamp : UInt64) : (d.started captureLength wireLength timestamp).WellFormed :=
  ⟨h.capacity_eq, h.recordCount_le, h.known_framing, h.depth_eq⟩

/-- Every operation keeps a dissector well formed. -/
theorem WellFormed.performed {d : Dissector} (h : d.WellFormed) {operation : Operation}
    {traced : Traced} (performed : d.Performs operation traced) : traced.1.WellFormed := by
  cases performed with
  | reset => exact ⟨h.capacity_eq, Nat.zero_le _, rfl, rfl⟩
  | set stays same => exact h.set same
  | evolve stays evolved => exact h.evolve evolved
  | capture held evolved => exact (h.started _ _ _).evolve evolved

end Dissector

/-! ## Runs -/

namespace Session

/-- A session starts with a well-formed dissector. -/
theorem wellFormed_start (config : Config) (registry : Option Registry) :
    (start config registry).dissector.WellFormed :=
  ⟨rfl, Nat.zero_le _, rfl, rfl⟩

/-- An operation other than a reset adds to the trace. -/
theorem perform_of_ne_reset (session : Session) {operation : Operation}
    (stays : operation ≠ .reset) :
    session.perform operation = ⟨(session.dissector.perform operation).1,
      session.events ++ (session.dissector.perform operation).2⟩ := by
  cases operation with
  | reset => exact absurd rfl stays
  | _ => rfl

/-- The dissector behind an operation is what the operation makes of it. -/
theorem dissector_perform (session : Session) (operation : Operation) :
    (session.perform operation).dissector = (session.dissector.perform operation).1 := by
  cases operation <;> rfl

/-- Whatever each of some operations keeps, a session of them keeps. -/
theorem dissector_run {P : Dissector → Prop} {operations : List Operation}
    (step : ∀ d, ∀ operation ∈ operations, P d → P (d.perform operation).1) {session : Session}
    (h : P session.dissector) : P (session.run operations).dissector := by
  induction operations generalizing session with
  | nil => exact h
  | cons operation rest ih =>
    have first : P (session.perform operation).dissector := by
      rw [dissector_perform]
      exact step session.dissector operation List.mem_cons_self h
    exact ih (fun d other member => step d other (List.mem_cons_of_mem _ member)) first

/-- The dissector of a session is well formed at all times. -/
theorem wellFormed_run (config : Config) (registry : Option Registry)
    (operations : List Operation) :
    ((start config registry).run operations).dissector.WellFormed :=
  dissector_run (fun d operation _ h => h.performed (d.performs operation))
    (wellFormed_start config registry)

end Session

end FrameSpans
