import FrameSpans.Proofs.Dissector.Flags
import FrameSpans.Proofs.Reading.Whole
import FrameSpans.Proofs.Session.Depth

/-!
# Fragments inside a capture

The flag of a fragment is set by every IP header that is that of a fragment, at any depth. So a
capture that is no fragment itself is flagged as one exactly if a packet inside it is one, one that it
carries or quotes (`Dissector.fragment_of_inner`). The framing, of which only the outermost frame may
tell, is guarded by the depth; the flags are not (`Dissector.carried_fragment_flagged`).

That a packet is inside another one is told by the depth that the events count: `FragmentsBelow` says
of events in a row that every fragment among them is deeper than a packet around them. What happens
between the entry of a packet and its end is deeper than the packet around it
(`FragmentsBelow.nested`), so the requests of handlers, and all that follows the steps of a level, tell
of fragments below that level only (`Evolves.Outside`).
-/

namespace FrameSpans

/-! ## Events of fragments -/

/-- Whether an event tells of a fragment. -/
def Event.isFragment : Event → Bool
  | .fragment _ => true
  | _ => false

/-- A notice does not tell of a fragment. -/
theorem Event.isFragment_of_notice {event : Event} (h : event.IsNotice) :
    event.isFragment = false := by
  cases event with
  | fragment => exact h.elim
  | _ => rfl

/-- The packet is flagged as a fragment if it was before, or if an event tells of a fragment. -/
theorem Evolves.isFragment_eq {d d' : Dissector} {events : List Event} (h : Evolves d events d') :
    d'.scalars.isFragment = (d.scalars.isFragment || events.any Event.isFragment) := by
  have same (d : Dissector) : d.scalars.isFragment = (d.scalars.isFragment || false) :=
    (Bool.or_false _).symm
  induction h with
  | nothing d | exhausted | refuse | keep => exact same _
  | notice d notice =>
    rw [List.any_cons, Event.isFragment_of_notice notice]
    exact same d
  | store offered =>
    obtain ⟨-, -, word, -, rfl⟩ := Dissector.of_offer offered
    exact same _
  | widen widened =>
    obtain ⟨-, -, word, -, rfl⟩ := Dissector.of_widen widened
    exact same _
  | fragment d isLast => exact (Bool.or_true _).symm
  | framing d known =>
    unfold Dissector.setFraming
    split <;> exact same d
  | nested level inner ih =>
    rw [List.any_append, List.any_cons]
    exact ih.trans (congrArg _ (Bool.or_false _).symm)
  | append first second ih₁ ih₂ => rw [ih₂, ih₁, List.any_append, Bool.or_assoc]

/-- Every fragment that these events tell of, from the given depth on, is deeper than `around`. -/
def FragmentsBelow (around : Nat) : Nat → List Event → Prop
  | _, [] => True
  | depth, event :: rest =>
    (event.isFragment = true → around < depth) ∧
      FragmentsBelow around (event.depthBehind depth) rest

namespace FragmentsBelow

variable {around greatest depth : Nat} {events more : List Event}

/-- Events that do not tell of a fragment. -/
theorem of_none (h : events.any Event.isFragment = false) : FragmentsBelow around depth events := by
  induction events generalizing depth with
  | nil => trivial
  | cons event rest ih =>
    rw [List.any_cons, Bool.or_eq_false_iff] at h
    exact ⟨fun told => absurd told (Bool.eq_false_iff.mp h.1), ih h.2⟩

/-- Events all of which are deeper. -/
theorem of_inDepth (h : InDepth (around + 1) greatest depth events) :
    FragmentsBelow around depth events := by
  induction events generalizing depth with
  | nil => trivial
  | cons event rest ih => exact ⟨fun _ => h.1.1, ih h.2.2⟩

/-- Events in a row. -/
theorem append (first : FragmentsBelow around depth events)
    (second : FragmentsBelow around (depthBehind depth events) more) :
    FragmentsBelow around depth (events ++ more) := by
  induction events generalizing depth with
  | nil => exact second
  | cons event rest ih => exact ⟨first.1, ih first.2 second⟩

/-- What happens in a packet is deeper than the packet around it. -/
theorem nested (h : InDepth (around + 1) greatest (around + 1) events) :
    FragmentsBelow around around (.entered (around + 1) :: events ++ [.left]) :=
  ⟨nofun, (of_inDepth h).append ⟨nofun, trivial⟩⟩

/-- Where no packet is entered the depth does not grow. -/
theorem depthBehind_le (h : ∀ inside, .entered inside ∉ events) :
    depthBehind depth events ≤ depth := by
  induction events generalizing depth with
  | nil => exact Nat.le_refl depth
  | cons event rest ih =>
    have others := @ih (event.depthBehind depth) fun inside member =>
      h inside (List.mem_cons_of_mem event member)
    refine Nat.le_trans others ?_
    cases event with
    | entered inside => exact absurd List.mem_cons_self (h inside)
    | left => exact Nat.sub_le depth 1
    | _ => exact Nat.le_refl depth

/-- A fragment among the events is deeper. -/
theorem lt_depthBehind {isLast : Bool}
    (h : FragmentsBelow around depth (events ++ .fragment isLast :: more)) :
    around < depthBehind depth events := by
  induction events generalizing depth with
  | nil => exact h.1 rfl
  | cons event rest ih => exact ih h.2

end FragmentsBelow

/-! ## What happens behind the steps of a level -/

/-- A change during which every fragment is inside a packet that is entered. -/
structure Evolves.Outside (d : Dissector) (events : List Event) (d' : Dissector) : Prop where
  /-- It is a change. -/
  evolves : Evolves d events d'
  /-- The fragments are deeper. -/
  below : d.depth ≤ d.config.maxDepth.toNat → FragmentsBelow d.depth d.depth events

namespace Evolves.Outside

variable {d d₁ d₂ : Dissector} {events more : List Event}

/-- A change without fragments. -/
theorem of_none (h : Evolves d events d₁) (none : events.any Event.isFragment = false) :
    Outside d events d₁ :=
  ⟨h, fun _ => .of_none none⟩

/-- One change behind another. -/
theorem append (first : Outside d events d₁) (second : Outside d₁ more d₂) :
    Outside d (events ++ more) d₂ := by
  refine ⟨.append first.evolves second.evolves, fun level => (first.below level).append ?_⟩
  -- The first change restores the depth, so the second one starts where it did.
  have keeps := first.evolves.keeps
  have behind := second.below (by rw [keeps.depth_eq, keeps.config_eq]; exact level)
  rw [(first.evolves.inDepth level).1]
  rw [keeps.depth_eq] at behind
  exact behind

/-- A notice. -/
theorem notice (d : Dissector) {event : Event} (h : event.IsNotice) : Outside d [event] d := by
  refine of_none (.notice d h) ?_
  rw [List.any_cons, Event.isFragment_of_notice h]
  rfl

/-- A notice in front of a change. -/
theorem cons {event : Event} (h : event.IsNotice) (rest : Outside d events d₁) :
    Outside d (event :: events) d₁ :=
  append (.notice d h) rest

section Outermost

variable (h : Outside d events d₁) (outermost : d.depth = 0)
  (clear : d.scalars.isFragment = false)

include h outermost clear

/-- The packet is flagged as a fragment if and only if a fragment was met inside a packet that was
entered. -/
theorem isFragment_iff :
    d₁.scalars.isFragment = true ↔
      ∃ front isLast rear, events = front ++ .fragment isLast :: rear ∧ 0 < depthBehind 0 front := by
  rw [h.evolves.isFragment_eq, clear, Bool.false_or]
  constructor
  · intro told
    obtain ⟨event, member, fragment⟩ := List.any_eq_true.mp told
    obtain ⟨front, rear, rfl⟩ := List.append_of_mem member
    cases event with
    | fragment isLast =>
      have deeper := h.below (outermost ▸ Nat.zero_le _)
      rw [outermost] at deeper
      exact ⟨front, isLast, rear, rfl, deeper.lt_depthBehind⟩
    | _ => cases fragment
  · rintro ⟨front, isLast, rear, rfl, -⟩
    rw [List.any_append, List.any_cons]
    exact Bool.or_true _

/-- Where no packet was entered, the packet is not flagged as a fragment. -/
theorem isFragment_of_none_entered (none : ∀ inside, .entered inside ∉ events) :
    d₁.scalars.isFragment = false := by
  refine Bool.eq_false_iff.mpr fun told => ?_
  obtain ⟨front, isLast, rear, rfl, deeper⟩ := (h.isFragment_iff outermost clear).mp told
  have still : depthBehind 0 front ≤ 0 := FragmentsBelow.depthBehind_le fun inside member =>
    none inside (List.mem_append_left _ member)
  exact Nat.not_lt.mpr still deeper

/-- Where no packet may be entered, the packet is not flagged as a fragment. -/
theorem isFragment_of_maxDepth (none : d.config.maxDepth = 0) : d₁.scalars.isFragment = false := by
  refine Bool.eq_false_iff.mpr fun told => ?_
  obtain ⟨front, isLast, rear, rfl, deeper⟩ := (h.isFragment_iff outermost clear).mp told
  have bounds := (h.evolves.inDepth (outermost ▸ Nat.zero_le _)).2
  rw [none, outermost] at bounds
  have greatest : depthBehind 0 front ≤ 0 := (InDepth.append_iff.mp bounds).2.start.2
  exact Nat.not_lt.mpr greatest deeper

end Outermost

end Evolves.Outside

/-- Descending tells of fragments inside the packet that is entered. -/
theorem Dissector.outside_descend (levels : Nat) (entry : Entry) (data : Octets) (offset : Nat)
    {d : Dissector} (left : d.levelsLeft = levels) :
    Evolves.Outside d (descend levels entry data offset d).events
      (descend levels entry data offset d).dissector := by
  refine ⟨evolves_descend levels entry data offset d left, fun level => ?_⟩
  cases levels with
  | zero => exact ⟨nofun, trivial⟩
  | succ levels =>
    have followed := evolves_follow (evolves_descend levels) data
      (Reading.sound_read data entry offset) (levelsLeft_enter left)
    unfold levelsLeft at left
    exact .nested (followed.inDepth (show d.depth + 1 ≤ d.config.maxDepth.toNat by omega)).2

/-- Telling why reading stopped tells of no fragment. -/
theorem Outcome.outside_closed {d : Dissector} {outcome : Outcome}
    (h : Evolves.Outside d outcome.events outcome.dissector) (branch : Branch) :
    Evolves.Outside d (outcome.closed branch).2 (outcome.closed branch).1 := by
  unfold closed
  split
  · exact h
  · exact h.append (.notice _ trivial)

section Handlers

variable {levels : Nat}

/-- Dissecting an encapsulated packet on behalf of a handler. -/
theorem Dissector.outside_reenter {d : Dissector} (left : d.levelsLeft = levels)
    (inner : Encapsulation) (data : Octets) (offset : Nat) :
    Evolves.Outside d (d.reenter (descend levels) inner data offset).2
      (d.reenter (descend levels) inner data offset).1 := by
  have entered := outside_descend levels inner.entry (data.upTo d.captureLength) offset left
  exact Outcome.outside_closed entered (.encapsulated inner offset)

/-- Granting the requests of a handler. -/
theorem Program.outside_run (program : Program) {d : Dissector} (left : d.levelsLeft = levels) :
    Evolves.Outside d (program.run (Dissector.descend levels) d).2
      (program.run (Dissector.descend levels) d).1 := by
  induction program generalizing d with
  | done => exact .of_none (.nothing d) rfl
  | fault => exact .notice d trivial
  | note text next ih => exact .cons trivial (ih left)
  | captureLength next ih => exact ih d.captureLength left
  | addSpan span next ih =>
    unfold run
    split
    · next recorded offered =>
      have stored := Evolves.store offered
      exact .append (.of_none stored rfl) (ih true (stored.levelsLeft_eq.trans left))
    · next reason refused => exact .append (.of_none (.refuse refused) rfl) (ih false left)
  | dissect inner data offset next ih =>
    have first := Dissector.outside_reenter left inner data offset
    exact first.append (ih (first.evolves.levelsLeft_eq.trans left))

namespace Dissector

/-- Asking handlers. -/
theorem outside_askAll (call : Consultation) (handlers : List (Nat × Handler)) {d : Dissector}
    (left : d.levelsLeft = levels) :
    Evolves.Outside d (askAll (descend levels) call handlers d).2
      (askAll (descend levels) call handlers d).1 := by
  induction handlers generalizing d with
  | nil => exact .of_none (.nothing d) rfl
  | cons entry rest ih =>
    obtain ⟨slot, handler⟩ := entry
    have first := (handler call).outside_run left
    exact .cons trivial (first.append (ih (first.evolves.levelsLeft_eq.trans left)))

/-- Asking the handlers of a registry. -/
theorem outside_consult (call : Consultation) {d : Dissector} (left : d.levelsLeft = levels) :
    Evolves.Outside d (consult (descend levels) call d).2 (consult (descend levels) call d).1 := by
  unfold consult
  split
  · exact outside_askAll call _ left
  · exact .notice d trivial
  · exact .of_none (.nothing d) rfl

end Dissector

end Handlers

/-! ## Levels that are no fragments -/

/-- Steps that do not tell a fragment leave the flag as it is. -/
theorem Flags.isFragment_of_unfragmented (depth : Nat) (flags : Flags) {steps : List Step}
    (h : ∀ step ∈ steps, step.Unfragmented) :
    (steps.foldl (step depth) flags).isFragment = flags.isFragment := by
  have marked (flags : Flags) {marks : List Mark} (h : ∀ mark ∈ marks, mark.Unfragmented) :
      marks.foldl mark flags = flags := by
    induction marks with
    | nil => rfl
    | cons found rest ih =>
      obtain ⟨first, others⟩ := List.forall_mem_cons.mp h
      rw [List.foldl_cons]
      cases found with
      | option => exact ih others
      | fragment => exact first.elim
  induction steps generalizing flags with
  | nil => rfl
  | cons taken rest ih =>
    obtain ⟨first, others⟩ := List.forall_mem_cons.mp h
    rw [List.foldl_cons, ih _ others]
    cases taken with
    | mark found =>
      exact congrArg Flags.isFragment (marked flags (List.forall_mem_singleton.mpr first))
    | chained base marks length => exact congrArg Flags.isFragment (marked flags first)
    | framing type =>
      rw [step]
      split <;> rfl
    | header | payload | remark => rfl

namespace Dissector

/-- The outermost level of a capture that is no fragment does not tell one. -/
theorem unfragmented_readLink {link : LinkType} {data : Octets}
    (whole : (readLink link data).Only (Step.Whole data)) :
    (readLink link data).Only Step.Unfragmented := by
  cases link with
  | ethernet => exact Reading.unfragmented_ethernet whole
  | rawIp =>
    exact .after_one trivial (Reading.unfragmented_ip ((Reading.only_after _ _).mp whole).2)

/-- Following a level that does not tell a fragment, in a dissector that knows of none, tells of
fragments inside other packets only. -/
theorem outside_follow (data : Octets) {size : Nat} {reading : Reading}
    (sound : reading.Sound size) (whole : reading.Only Step.Unfragmented) {d : Dissector}
    (clear : d.scalars.isFragment = false) :
    Evolves.Outside d (follow (descend d.levelsLeft) data reading d).events
      (follow (descend d.levelsLeft) data reading d).dissector := by
  have taken := d.evolves_takeAll sound.steps
  have none : (d.takeAll reading.steps).2.any Event.isFragment = false := by
    -- The steps leave the flag as it is, and no event is without a trace in the flag.
    have flagged := congrArg Flags.isFragment (d.flags_takeAll sound.steps)
    rw [Flags.isFragment_of_unfragmented d.depth d.flags whole] at flagged
    have told := taken.isFragment_eq
    rw [show (d.takeAll reading.steps).1.scalars.isFragment = d.scalars.isFragment from flagged,
      clear, Bool.false_or] at told
    exact told.symm
  have first := Evolves.Outside.of_none taken none
  have still := taken.levelsLeft_eq
  unfold follow
  dsimp only
  split
  · exact first
  · exact first
  · next entry offset _ => exact first.append (outside_descend _ entry data offset still)
  · next id offset inquiry _ => exact first.append (outside_consult _ still)

/-! ## Captures -/

variable {buffer : Octets} {captureLength wireLength : Nat}

/-- A capture that is no fragment itself is flagged as one if and only if one was met inside a packet
that was entered, whether an encapsulation, a quotation or a handler led to it. It is not flagged if
no packet was entered, or if none may be. -/
theorem fragment_of_inner (d : Dissector) (held : captureLength ≤ buffer.size)
    (wired : captureLength ≤ wireLength) (timestamp : UInt64)
    (whole : (readLink d.config.link (buffer.extract 0 captureLength)).Only
      (Step.Whole (buffer.extract 0 captureLength))) :
    ∃ traced, d.reset.dissect buffer captureLength wireLength timestamp = .ok traced ∧
      (traced.1.scalars.isFragment = true ↔ ∃ front isLast rear,
        traced.2 = front ++ .fragment isLast :: rear ∧ 0 < depthBehind 0 front) ∧
      ((∀ depth, .entered depth ∉ traced.2) → traced.1.scalars.isFragment = false) ∧
      (d.config.maxDepth = 0 → traced.1.scalars.isFragment = false) := by
  have clear : (d.reset.started captureLength wireLength timestamp).scalars.isFragment = false := rfl
  have followed := outside_follow (buffer.extract 0 captureLength)
    (sound_readLink d.config.link _) (unfragmented_readLink whole) clear
  have outside := Outcome.outside_closed followed (.capture captureLength)
  exact ⟨_, dissect_held held wired timestamp, outside.isFragment_iff rfl clear,
    outside.isFragment_of_none_entered rfl clear, outside.isFragment_of_maxDepth rfl clear⟩

/-- A datagram that is no fragment carries one in a GRE packet. -/
theorem fragment_of_inner_gre :
    let frame : Octets :=
      #[0x45, 0, 0, 44, 0, 0, 0, 0, 64, 47, 0, 0, 10, 0, 0, 1, 10, 0, 0, 2, 0, 0, 0x08, 0x00,
        0x45, 0, 0, 20, 0, 0, 0x20, 0, 64, 1, 0, 0, 10, 0, 0, 3, 10, 0, 0, 4]
    let d : Dissector := { config := { link := .rawIp } }
    44 ≤ frame.size ∧ 44 ≤ 44 ∧
      (readLink .rawIp (frame.extract 0 44)).Only (Step.Whole (frame.extract 0 44)) ∧
      ∃ traced, d.reset.dissect frame 44 44 0 = .ok traced ∧
        traced.1.scalars.isFragment = true ∧
        ∃ front isLast rear,
          traced.2 = front ++ .fragment isLast :: rear ∧ 0 < depthBehind 0 front := by
  intro frame d
  have held : 44 ≤ frame.size := by decide
  have steps : (readLink .rawIp (frame.extract 0 44)).steps =
      [.framing .rawIp, .header ⟨.ipv4, 0, 20⟩, .payload .gre 20 .ipv4, .header ⟨.gre, 20, 4⟩] := by
    decide +kernel
  have field : Octets.word16? (frame.extract 0 44) (0 + 6) = some 0 := by decide +kernel
  have whole : (readLink .rawIp (frame.extract 0 44)).Only (Step.Whole (frame.extract 0 44)) := by
    rw [Reading.Only, steps]
    simp only [List.forall_mem_cons]
    exact ⟨trivial, fun _ => Octets.wholeIpv4_of_field field rfl, trivial, nofun, nofun⟩
  obtain ⟨traced, dissected, flagged, -⟩ :=
    fragment_of_inner d held (by decide : 44 ≤ 44) 0 whole
  have told : (d.reset.dissect frame 44 44 0).toOption.map
      (fun traced => traced.1.scalars.isFragment) = some true := by
    decide +kernel
  rw [dissected] at told
  have fragment := Option.some.inj told
  exact ⟨held, by decide, whole, traced, dissected, fragment, flagged.mp fragment⟩

/-- A datagram that is no fragment, and carries one as its payload, is flagged as a fragment. -/
theorem carried_fragment_flagged :
    let frame : Octets :=
      #[0x45, 0, 0, 40, 0, 0, 0, 0, 64, 4, 0, 0, 10, 0, 0, 1, 10, 0, 0, 2,
        0x45, 0, 0, 20, 0, 0, 0x20, 0, 64, 1, 0, 0, 10, 0, 0, 3, 10, 0, 0, 4]
    let d : Dissector := { config := { link := .rawIp } }
    (readLink .rawIp frame).Only (Step.Whole frame) ∧
      ∃ traced, d.reset.dissect frame 40 40 0 = .ok traced ∧
        traced.1.scalars.isFragment = true := by
  intro frame d
  have steps : (readLink .rawIp frame).steps =
      [.framing .rawIp, .header ⟨.ipv4, 0, 20⟩, .payload .ipInIp 20 .ipv4] := by
    decide +kernel
  have field : frame.word16? (0 + 6) = some 0 := by decide +kernel
  have told : (d.reset.dissect frame 40 40 0).toOption.map
      (fun traced => traced.1.scalars.isFragment) = some true := by
    decide +kernel
  obtain ⟨traced, dissected, flagged⟩ := ok_of_map_toOption told
  refine ⟨?_, traced, dissected, flagged⟩
  rw [Reading.Only, steps]
  simp only [List.forall_mem_cons]
  exact ⟨trivial, fun _ => Octets.wholeIpv4_of_field field rfl, trivial, nofun⟩

end Dissector

end FrameSpans
