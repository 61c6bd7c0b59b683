import FrameSpans.Proofs.Dissector.Flags
import FrameSpans.Proofs.Dissector.Relocation

/-!
# Handlers only add

The walk asks handlers where a level ends, and behind them there is nothing more of the packet to
read. So what is recorded without handlers is recorded first with them, word for word, and whatever
a handler does goes behind it: `records_of_handlers` tells so of all handlers, those included that
dissect packets of their own and offer spans without end.

Up to the first question the two dissections take the same steps (`takeAll_withRegistry`), so they
are in the same state but for their handlers. From there on one of them stands still, and the other
one appends to the table, adds to the set of protocols and leaves the framing alone
(`Extends.of_consult`).
-/

namespace FrameSpans

/-! ## Exchanging the handlers -/

namespace Dissector

/-- The dissector with other handlers to ask. -/
def withRegistry (d : Dissector) (registry : Option Registry) : Dissector :=
  { d with registry }

/-- Steps have nothing to do with handlers. -/
theorem takeAll_withRegistry (d : Dissector) (registry : Option Registry) {size : Nat}
    {steps : List Step} (sound : ∀ step ∈ steps, step.Sound size) :
    ((d.withRegistry registry).takeAll steps).1 = (d.takeAll steps).1.withRegistry registry := by
  have kept : (d.takeAll steps).1.depth = d.depth := (d.evolves_takeAll sound).keeps.depth_eq
  calc ((d.withRegistry registry).takeAll steps).1
    _ = (d.takeAll steps).1.relocate registry d.depth := takeAll_relocate registry Iff.rfl sound
    _ = (d.takeAll steps).1.relocate registry (d.takeAll steps).1.depth := by rw [kept]
    _ = (d.takeAll steps).1.withRegistry registry := rfl

end Dissector

/-! ## What handlers add -/

/-- What handlers may make of a dissection: everything that was known of the packet without them is
known with them. -/
structure Extends (d u : Dissector) : Prop where
  /-- The records are the first ones of the table. -/
  records_prefix : d.records <+: u.records
  /-- The protocols that were seen are reported. -/
  bitmask_subset : ∀ id : ProtocolId,
    d.scalars.bitmask.contains id = true → u.scalars.bitmask.contains id = true
  /-- The framing is the same. -/
  l2Type_eq : u.scalars.l2Type = d.scalars.l2Type

namespace Extends

variable {d u : Dissector}

/-- With the handlers exchanged, a dissector knows as much. -/
theorem of_withRegistry (d : Dissector) (registry : Option Registry) :
    Extends d (d.withRegistry registry) :=
  ⟨List.prefix_refl _, fun _ reported => reported, rfl⟩

/-- Both leave an encapsulated packet. -/
theorem leave (h : Extends d u) :
    Extends { d with depth := d.depth - 1 } { u with depth := u.depth - 1 } :=
  ⟨h.records_prefix, h.bitmask_subset, h.l2Type_eq⟩

/-- Asking handlers adds to what was known, whatever the handlers do. -/
theorem of_consult {levels : Nat} (call : Consultation) {d : Dissector}
    (left : d.levelsLeft = levels) (registry : Option Registry) :
    Extends d
      (Dissector.consult (Dissector.descend levels) call (d.withRegistry registry)).1 where
  records_prefix := by
    have spans := Dissector.carried_prefix.consult (Dissector.growing_descend levels) call
      (d.withRegistry registry)
    -- The table is told by its spans, and these stay where they are.
    exact (List.prefix_map_iff_of_injective Span.decode_injective).mp spans
  bitmask_subset id reported := by
    have asked := Dissector.evolves_consult (Dissector.evolves_descend levels) call
      (d := d.withRegistry registry) left
    exact asked.contains_bitmask reported
  l2Type_eq := Dissector.granted_framing.consult (Dissector.keepsFraming_descend levels) call _

end Extends

/-! ## The walk -/

namespace Dissector

/-- Without a registry, what handlers would be asked changes nothing. -/
theorem consult_of_registry_none (deeper : Descent) (call : Consultation) {d : Dissector}
    (bare : d.registry = none) : (consult deeper call d).1 = d := by
  unfold consult
  rw [bare]
  cases call.inquiry <;> rfl

/-- Where so many levels are left, handlers add to an encapsulated packet and change nothing of
it. -/
def Adding (registry : Option Registry) (levels : Nat) : Prop :=
  ∀ (entry : Entry) (data : Octets) (offset : Nat) {d : Dissector}, d.registry = none →
    d.levelsLeft = levels → Extends (descend levels entry data offset d).dissector
      (descend levels entry data offset (d.withRegistry registry)).dissector

/-- Following a reading, handlers only add. -/
theorem Adding.follow {registry : Option Registry} {levels : Nat} (deeper : Adding registry levels)
    (data : Octets) {size : Nat} {reading : Reading} (sound : reading.Sound size) {d : Dissector}
    (bare : d.registry = none) (left : d.levelsLeft = levels) :
    Extends (Dissector.follow (descend levels) data reading d).dissector
      (Dissector.follow (descend levels) data reading (d.withRegistry registry)).dissector := by
  have steps := d.takeAll_withRegistry registry sound.steps
  have taken := d.evolves_takeAll sound.steps
  have still : (d.takeAll reading.steps).1.registry = none := taken.keeps.registry_eq.trans bare
  have levelsLeft := taken.levelsLeft_eq.trans left
  unfold Dissector.follow
  dsimp only
  rw [steps]
  split
  · exact .of_withRegistry _ _
  · exact .of_withRegistry _ _
  · next entry offset ending => exact deeper entry data offset still levelsLeft
  · next id offset inquiry ending =>
    -- One side has nobody to ask, and whatever handlers do on the other one only adds.
    dsimp only
    rw [consult_of_registry_none _ _ still]
    exact .of_consult _ levelsLeft registry

/-- Handlers only add, however many levels are left. -/
theorem adding_descend (registry : Option Registry) (levels : Nat) : Adding registry levels := by
  -- Induction on the levels that are left, as for `evolves_descend`.
  induction levels with
  | zero => exact fun _ _ _ d _ _ => .of_withRegistry d registry
  | succ levels ih =>
    intro entry data offset d bare left
    have followed := ih.follow data (Reading.sound_read data entry offset)
      (d := { d with depth := d.depth + 1 }) bare (levelsLeft_enter left)
    exact followed.leave

/-! ## Captures -/

/-- Handlers only add. Whatever the handlers of a registry do, the records of a capture that was
dissected without them are the first records with them, word for word, the protocols that were
reported are reported, and the framing is the same. -/
theorem records_of_handlers (d : Dissector) (registry : Registry) {frame : Octets}
    {captureLength wireLength : Nat} (held : captureLength ≤ frame.size)
    (wired : captureLength ≤ wireLength) (timestamp : UInt64) :
    ∃ bare full,
      (d.withRegistry none).reset.dissect frame captureLength wireLength timestamp = .ok bare ∧
      (d.withRegistry (some registry)).reset.dissect frame captureLength wireLength timestamp =
        .ok full ∧
      bare.1.records <+: full.1.records ∧
      (∀ id : ProtocolId, bare.1.scalars.bitmask.contains id = true →
        full.1.scalars.bitmask.contains id = true) ∧
      full.1.scalars.l2Type = bare.1.scalars.l2Type := by
  refine ⟨_, _, dissect_held held wired timestamp, dissect_held held wired timestamp, ?_⟩
  have followed := (adding_descend (some registry) _).follow (frame.extract 0 captureLength)
    (sound_readLink d.config.link (frame.extract 0 captureLength))
    (d := (d.withRegistry none).reset.started captureLength wireLength timestamp) rfl rfl
  rw [Outcome.dissector_closed, Outcome.dissector_closed]
  exact ⟨followed.records_prefix, followed.bitmask_subset, followed.l2Type_eq⟩

/-- A packet in VXLAN on raw IP. Without handlers the outer IPv4 and UDP headers are recorded; the
tunnel handlers add three more records, the last one an IPv4 header inside the tunnel. -/
theorem records_of_tunnel_handlers :
    let frame : Octets :=
      #[0x45, 0, 0, 0x46, 0, 0, 0, 0, 64, 17, 0, 0, 10, 0, 0, 1, 10, 0, 0, 2,
        0x12, 0xb5, 0x12, 0xb5, 0, 50, 0, 0, 8, 0, 0, 0, 0, 0, 1, 0,
        2, 0, 0, 0, 0, 1, 2, 0, 0, 0, 0, 2, 0x08, 0x00,
        0x45, 0, 0, 20, 0, 0, 0, 0, 64, 1, 0, 0, 10, 0, 0, 3, 10, 0, 0, 4]
    let registry : Registry := ⟨Tunnel.handlers, by decide⟩
    let d : Dissector := { config := { link := .rawIp } }
    70 ≤ frame.size ∧ 70 ≤ 70 ∧
      ∃ bare full, (d.withRegistry none).reset.dissect frame 70 70 0 = .ok bare ∧
        (d.withRegistry (some registry)).reset.dissect frame 70 70 0 = .ok full ∧
        bare.1.records <+: full.1.records ∧
        (∀ id : ProtocolId, bare.1.scalars.bitmask.contains id = true →
          full.1.scalars.bitmask.contains id = true) ∧
        full.1.scalars.l2Type = bare.1.scalars.l2Type ∧
        bare.1.spans.map (·.id) = [.ipv4, .udp] ∧
        full.1.spans.map (·.id) = [.ipv4, .udp, Tunnel.vxlanId, .ethernet, .ipv4] := by
  intro frame registry d
  have held : 70 ≤ frame.size := by decide
  obtain ⟨bare, full, dissected, dissected', records, protocols, framing⟩ :=
    records_of_handlers d registry held (Nat.le_refl 70) 0
  have told : ((d.withRegistry none).reset.dissect frame 70 70 0).toOption.map
      (fun traced => traced.1.spans.map (·.id)) = some [.ipv4, .udp] := by
    decide +kernel
  have told' : ((d.withRegistry (some registry)).reset.dissect frame 70 70 0).toOption.map
      (fun traced => traced.1.spans.map (·.id)) =
        some [.ipv4, .udp, Tunnel.vxlanId, .ethernet, .ipv4] := by
    decide +kernel
  rw [dissected] at told
  rw [dissected'] at told'
  exact ⟨held, Nat.le_refl 70, bare, full, dissected, dissected', records, protocols, framing,
    Option.some.inj told, Option.some.inj told'⟩

end Dissector

end FrameSpans
