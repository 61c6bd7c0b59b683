import FrameSpans.Dissector.Descent
import FrameSpans.Proofs.Dissector.Evolution
import FrameSpans.Proofs.Reading.Classes

/-!
# A dissection is an evolution

Every part of a dissection, from a single offered span to a whole capture, changes the dissector in
a way that `Evolves` allows, and its trace is the list of events of that change. So what was proved
of `Evolves` holds for all captures, all configurations and all handlers.

The walk is a recursion on the levels that are left, and so is the proof (`evolves_descend`): a
`Descent` that evolves where `levels` levels are left gives one that evolves where one more is left.
-/

namespace FrameSpans

namespace Dissector

/-! ## Steps -/

/-- Offering a span is an evolution. -/
theorem evolves_addSpan (d : Dissector) (span : Span) :
    Evolves d (d.addSpan span).2 (d.addSpan span).1 := by
  unfold addSpan
  split
  · next recorded offered => exact .store offered
  · next reason refused => exact .refuse refused

/-- Offering a span in the place of a record is an evolution. -/
theorem evolves_updateSpan (d : Dissector) (index : Nat) (span : Span) :
    Evolves d (d.updateSpan index span).2 (d.updateSpan index span).1 := by
  unfold updateSpan
  split
  · next widened exchanged => exact .widen exchanged
  · next reason kept => exact .keep kept

/-- Taking a mark is an evolution. -/
theorem evolves_takeMark (d : Dissector) (mark : Mark) :
    Evolves d (d.takeMark mark).2 (d.takeMark mark).1 := by
  cases mark with
  | option span =>
    unfold takeMark
    dsimp only
    split
    · exact d.evolves_addSpan span
    · exact .nothing d
  | fragment isLast => exact .fragment d isLast

/-- Taking marks is an evolution. -/
theorem evolves_takeMarks (d : Dissector) (marks : List Mark) :
    Evolves d (d.takeMarks marks).2 (d.takeMarks marks).1 := by
  induction marks generalizing d with
  | nil => exact .nothing d
  | cons mark rest ih => exact .append (d.evolves_takeMark mark) (ih _)

/-- Taking a header with its chain is an evolution. -/
theorem evolves_takeChained (d : Dissector) (base : Span) (marks : List Mark) (length : Nat) :
    Evolves d (d.takeChained base marks length).2 (d.takeChained base marks length).1 := by
  unfold takeChained
  split
  · next reason refused => exact .append (.refuse refused) (d.evolves_takeMarks marks)
  · next recorded offered =>
    -- The record is widened only after the marks went behind it.
    have marked := recorded.evolves_takeMarks marks
    refine .append (.append (.store offered) marked) ?_
    dsimp only
    split
    · exact .nothing _
    · exact evolves_updateSpan _ _ _

/-- Taking a sound step is an evolution. -/
theorem evolves_take (d : Dissector) {size : Nat} {step : Step} (sound : step.Sound size) :
    Evolves d (d.take step).2 (d.take step).1 := by
  cases step with
  | header span => exact d.evolves_addSpan span
  | mark mark => exact d.evolves_takeMark mark
  | chained base marks length => exact d.evolves_takeChained base marks length
  | framing type => exact .framing d sound
  | payload | remark => exact .notice d trivial

/-- Taking sound steps is an evolution. -/
theorem evolves_takeAll (d : Dissector) {size : Nat} {steps : List Step}
    (sound : ∀ step ∈ steps, step.Sound size) :
    Evolves d (d.takeAll steps).2 (d.takeAll steps).1 := by
  induction steps generalizing d with
  | nil => exact .nothing d
  | cons step rest ih =>
    obtain ⟨first, others⟩ := List.forall_mem_cons.mp sound
    exact .append (d.evolves_take first) (ih _ others)

end Dissector

/-- An evolution leaves as many levels as there were. -/
theorem Evolves.levelsLeft_eq {d d' : Dissector} {events : List Event} (h : Evolves d events d') :
    d'.levelsLeft = d.levelsLeft := by
  rw [Dissector.levelsLeft, h.keeps.config_eq, h.keeps.depth_eq, Dissector.levelsLeft]

/-! ## Outcomes -/

/-- What an outcome came to. The stop that put an end to a branch is the last event. -/
def Outcome.closed (branch : Branch) (outcome : Outcome) : Traced :=
  match outcome.stop with
  | none => (outcome.dissector, outcome.events)
  | some stop => (outcome.dissector, outcome.events ++ [.stopped branch stop])

/-- Telling why reading stopped changes nothing. -/
@[simp] theorem Outcome.dissector_closed (branch : Branch) (outcome : Outcome) :
    (outcome.closed branch).1 = outcome.dissector := by
  unfold closed
  split <;> rfl

/-- What happened is told whether or not reading stopped. -/
theorem Outcome.events_subset_closed (branch : Branch) (outcome : Outcome) :
    outcome.events ⊆ (outcome.closed branch).2 := by
  unfold closed
  split
  · exact List.Subset.refl _
  · exact List.subset_append_left _ _

/-- Dissecting an encapsulated packet on behalf of a handler tells why reading stopped. -/
theorem Dissector.reenter_eq_closed (deeper : Descent) (d : Dissector) (inner : Encapsulation)
    (data : Octets) (offset : Nat) :
    d.reenter deeper inner data offset =
      (deeper inner.entry (data.upTo d.captureLength) offset d).closed
        (.encapsulated inner offset) :=
  rfl

/-- An outcome that is an evolution stays one when its stop is told. -/
theorem Outcome.evolves_closed {d : Dissector} {outcome : Outcome}
    (h : Evolves d outcome.events outcome.dissector) (branch : Branch) :
    Evolves d (outcome.closed branch).2 (outcome.closed branch).1 := by
  unfold closed
  split
  · exact h
  · exact .append h (.notice _ trivial)

/-- Descending is an evolution where so many levels are left. -/
def Descent.Evolving (levels : Nat) (deeper : Descent) : Prop :=
  ∀ (entry : Entry) (data : Octets) (offset : Nat) (d : Dissector), d.levelsLeft = levels →
    Evolves d (deeper entry data offset d).events (deeper entry data offset d).dissector

/-! ## Handlers -/

section Handlers

variable {levels : Nat} {deeper : Descent} (h : deeper.Evolving levels)

include h

/-- Dissecting an encapsulated packet on behalf of a handler is an evolution. -/
theorem Dissector.evolves_reenter {d : Dissector} (left : d.levelsLeft = levels)
    (inner : Encapsulation) (data : Octets) (offset : Nat) :
    Evolves d (d.reenter deeper inner data offset).2 (d.reenter deeper inner data offset).1 :=
  Outcome.evolves_closed (h inner.entry (data.upTo d.captureLength) offset d left) _

/-- Granting the requests of a handler is an evolution. -/
theorem Program.evolves_run (program : Program) {d : Dissector} (left : d.levelsLeft = levels) :
    Evolves d (program.run deeper d).2 (program.run deeper d).1 := by
  induction program generalizing d with
  | done => exact .nothing d
  | fault => exact .notice d trivial
  | note text next ih => exact .cons trivial (ih left)
  | captureLength next ih => exact ih d.captureLength left
  | addSpan span next ih =>
    unfold run
    split
    · next recorded offered =>
      have stored := Evolves.store offered
      exact .append stored (ih true (stored.levelsLeft_eq.trans left))
    · next reason refused => exact .append (.refuse refused) (ih false left)
  | dissect inner data offset next ih =>
    have first := Dissector.evolves_reenter h left inner data offset
    exact .append first (ih (first.levelsLeft_eq.trans left))

namespace Dissector

/-- Asking handlers is an evolution. -/
theorem evolves_askAll (call : Consultation) (handlers : List (Nat × Handler)) {d : Dissector}
    (left : d.levelsLeft = levels) :
    Evolves d (askAll deeper call handlers d).2 (askAll deeper call handlers d).1 := by
  induction handlers generalizing d with
  | nil => exact .nothing d
  | cons entry rest ih =>
    obtain ⟨slot, handler⟩ := entry
    -- What a handler leaves has as many levels as it found, so the next one may descend as far.
    have first := (handler call).evolves_run h left
    exact .cons trivial (.append first (ih (first.levelsLeft_eq.trans left)))

/-- Asking the handlers of a registry is an evolution. -/
theorem evolves_consult (call : Consultation) {d : Dissector} (left : d.levelsLeft = levels) :
    Evolves d (consult deeper call d).2 (consult deeper call d).1 := by
  unfold consult
  split
  · exact evolves_askAll h call _ left
  · exact .notice d trivial
  · exact .nothing d

/-- Following a sound reading is an evolution. -/
theorem evolves_follow (data : Octets) {size : Nat} {reading : Reading} (sound : reading.Sound size)
    {d : Dissector} (left : d.levelsLeft = levels) :
    Evolves d (follow deeper data reading d).events (follow deeper data reading d).dissector := by
  have taken := d.evolves_takeAll sound.steps
  have still := taken.levelsLeft_eq.trans left
  unfold follow
  dsimp only
  split
  · exact taken
  · exact taken
  · next entry offset ending => exact .append taken (h entry data offset _ still)
  · next id offset inquiry ending => exact .append taken (evolves_consult h _ still)

end Dissector

end Handlers

/-! ## Levels -/

namespace Dissector

/-- Entering an encapsulated packet takes one of the levels that are left. -/
theorem levelsLeft_enter {d : Dissector} {levels : Nat} (left : d.levelsLeft = levels + 1) :
    levelsLeft { d with depth := d.depth + 1 } = levels := by
  unfold levelsLeft at left
  show d.config.maxDepth.toNat - (d.depth + 1) = levels
  omega

/-- Entering encapsulated packets is an evolution, however many levels are left. -/
theorem evolves_descend (levels : Nat) : Descent.Evolving levels (descend levels) := by
  -- Induction on the levels that are left: a level is followed with one level less.
  induction levels with
  | zero =>
    intro entry data offset d left
    unfold levelsLeft at left
    exact .exhausted (by omega)
  | succ levels ih =>
    intro entry data offset d left
    have followed := evolves_follow ih data (Reading.sound_read data entry offset)
      (levelsLeft_enter left)
    unfold levelsLeft at left
    exact .nested (by omega) followed

/-- Dissecting an encapsulated packet on behalf of a caller is an evolution. -/
theorem evolves_dissectInner (d : Dissector) (inner : Encapsulation) (data : Octets)
    (offset : Nat) :
    Evolves d (d.dissectInner inner data offset).2 (d.dissectInner inner data offset).1 :=
  evolves_reenter (evolves_descend d.levelsLeft) rfl inner data offset

/-! ## Captures -/

/-- Octets that a span can cover leave positions behind them free. -/
theorem roomy_of_le_maxLength {size : Nat} (short : size ≤ Span.maxLength) :
    size + overhang < offsetBound := by
  unfold Span.maxLength at short
  unfold overhang offsetBound
  omega

/-- The reading of the outermost level is sound. -/
theorem sound_readLink (link : LinkType) (data : Octets) :
    (readLink link data).Sound data.size := by
  cases link with
  | ethernet => exact Reading.sound_ethernet data 0
  | rawIp => exact .after_one rfl (Reading.sound_ip data 0)

/-- The reading of the outermost level is placed. -/
theorem placed_readLink (link : LinkType) (data : Octets) :
    (readLink link data).Placed data 0 := by
  cases link with
  | ethernet => exact Reading.placed_ethernet data 0
  | rawIp => exact .after_one trivial (Reading.placed_ip data 0)

/-- The headers of the outermost level are of the class of headers, and its marks are not. -/
theorem classed_readLink (link : LinkType) (data : Octets) : (readLink link data).Classed := by
  cases link with
  | ethernet => exact Reading.classed_ethernet data 0
  | rawIp => exact List.forall_mem_cons.mpr ⟨trivial, Reading.classed_ip data 0⟩

/-- Dissecting a capture is an evolution. -/
theorem evolves_dissectCapture (d : Dissector) (data : Octets) :
    Evolves d (d.dissectCapture data).events (d.dissectCapture data).dissector :=
  evolves_follow (evolves_descend d.levelsLeft) data (sound_readLink d.config.link data) rfl

/-- The dissector that sets out to dissect a capture. -/
def started (d : Dissector) (captureLength wireLength : Nat) (timestamp : UInt64) : Dissector :=
  { d with captureLength, wireLength, scalars := { d.scalars with timestamp } }

/-- A dissection is that of a dissector that knows the lengths and the timestamp, unless the capture
is refused. -/
theorem dissect_eq (d : Dissector) (buffer : Octets) (captureLength wireLength : Nat)
    (timestamp : UInt64) :
    d.dissect buffer captureLength wireLength timestamp =
      if buffer.size < captureLength then .error (.buffer captureLength buffer.size)
      else if wireLength < captureLength then .error (.wire wireLength captureLength)
      else .ok (((d.started captureLength wireLength timestamp).dissectCapture
        (buffer.extract 0 captureLength)).closed (.capture captureLength)) := by
  unfold dissect
  split
  · rfl
  · split
    · rfl
    · dsimp only
      split
      · next finished =>
        rw [Outcome.closed, started, finished]
      · next stop stopped =>
        rw [Outcome.closed, started, stopped]

/-- A capture that the buffer holds is dissected, if the packet was no shorter on the wire. -/
theorem dissect_held {d : Dissector} {buffer : Octets} {captureLength wireLength : Nat}
    (held : captureLength ≤ buffer.size) (wired : captureLength ≤ wireLength)
    (timestamp : UInt64) :
    d.dissect buffer captureLength wireLength timestamp =
      .ok (((d.started captureLength wireLength timestamp).dissectCapture
        (buffer.extract 0 captureLength)).closed (.capture captureLength)) := by
  rw [dissect_eq, if_neg (Nat.not_lt.mpr held), if_neg (Nat.not_lt.mpr wired)]

/-- A capture that fills its buffer is dissected, if the packet was no shorter on the wire. -/
theorem dissect_whole (d : Dissector) {frame : Octets} {wireLength : Nat}
    (wired : frame.size ≤ wireLength) (timestamp : UInt64) :
    d.dissect frame frame.size wireLength timestamp =
      .ok (((d.started frame.size wireLength timestamp).dissectCapture frame).closed
        (.capture frame.size)) := by
  rw [dissect_held (Nat.le_refl _) wired, Array.extract_size]

section Dissect

variable {d : Dissector} {buffer : Octets} {captureLength wireLength : Nat} {timestamp : UInt64}

/-- A capture that was dissected lies in the buffer, and the packet was no shorter on the wire. -/
theorem of_dissect {traced : Traced}
    (h : d.dissect buffer captureLength wireLength timestamp = .ok traced) :
    captureLength ≤ buffer.size ∧ captureLength ≤ wireLength ∧
      traced = ((d.started captureLength wireLength timestamp).dissectCapture
        (buffer.extract 0 captureLength)).closed (.capture captureLength) := by
  rw [dissect_eq] at h
  split at h
  · cases h
  · split at h
    · cases h
    · cases h
      exact ⟨by omega, by omega, rfl⟩

/-- A dissector that dissects a capture evolves from one that knows the lengths and the
timestamp. -/
theorem evolves_dissect {traced : Traced}
    (h : d.dissect buffer captureLength wireLength timestamp = .ok traced) :
    captureLength ≤ buffer.size ∧ captureLength ≤ wireLength ∧
      Evolves (d.started captureLength wireLength timestamp) traced.2 traced.1 := by
  obtain ⟨held, wired, rfl⟩ := of_dissect h
  exact ⟨held, wired, Outcome.evolves_closed (evolves_dissectCapture _ _) _⟩

end Dissect

/-- A capture is refused if and only if the buffer does not hold it or the packet was shorter on the
wire. -/
theorem dissect_eq_error_iff (d : Dissector) (buffer : Octets) (captureLength wireLength : Nat)
    (timestamp : UInt64) :
    (∃ error, d.dissect buffer captureLength wireLength timestamp = .error error) ↔
      buffer.size < captureLength ∨ wireLength < captureLength := by
  rw [dissect_eq]
  constructor
  · rintro ⟨error, refused⟩
    split at refused
    · next short => exact .inl short
    · split at refused
      · next short => exact .inr short
      · cases refused
  · intro short
    split
    · exact ⟨_, rfl⟩
    · rw [if_pos (by omega)]
      exact ⟨_, rfl⟩

end Dissector

end FrameSpans
