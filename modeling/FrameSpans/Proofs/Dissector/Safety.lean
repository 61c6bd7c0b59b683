import FrameSpans.Proofs.Dissector.Walk
import FrameSpans.Tunnel

/-!
# Dissections without faults

A dissection is safe if none of its events tells of a fault and no span that it offers ends behind
the last offset (`Event.Safe`). Readings are sound whatever the octets, so a dissection is safe if
its handlers are `Handler.Sound` and the capture leaves the overhang of a header free behind it
(`Dissector.Secured`). The tunnel handlers are sound (`Tunnel.IsHandler.sound`): they read headers
only with guarded readers.

The proof follows the walk, as that of `Dissector.evolves_descend` does, and takes from it that the
registry, the capture and the levels left stay the same on the way.
-/

namespace FrameSpans

/-! ## Safe events -/

/-- An event that tells of no fault, and of no span that ends behind the last offset. -/
def Event.Safe : Event → Prop
  | .stored span | .widened _ span | .refused span _ => span.offset + span.length < offsetBound
  | .handlerFault | .stopped _ .fault => False
  | _ => True

/-- A trace of safe events. -/
def SafeTrace (events : List Event) : Prop :=
  ∀ event ∈ events, event.Safe

namespace SafeTrace

/-- Nothing that happens is safe. -/
theorem nil : SafeTrace [] :=
  fun _ member => (List.not_mem_nil member).elim

/-- A safe event in front of safe events. -/
theorem cons {event : Event} {events : List Event} (first : event.Safe) (rest : SafeTrace events) :
    SafeTrace (event :: events) :=
  List.forall_mem_cons.mpr ⟨first, rest⟩

/-- A safe event alone. -/
theorem one {event : Event} (h : event.Safe) : SafeTrace [event] :=
  cons h nil

/-- Safe events behind safe events. -/
theorem append {events more : List Event} (first : SafeTrace events) (rest : SafeTrace more) :
    SafeTrace (events ++ more) := by
  intro event member
  rcases List.mem_append.mp member with early | late
  · exact first event early
  · exact rest event late

end SafeTrace

/-- Positions a little behind `size` octets are offsets. -/
def Roomy (size : Nat) : Prop :=
  size + overhang < offsetBound

/-- A span that ends near roomy octets ends before the last offset. -/
theorem Span.Near.lt {size : Nat} {span : Span} (near : span.Near size) (roomy : Roomy size) :
    span.offset + span.length < offsetBound :=
  Nat.lt_of_le_of_lt near roomy

/-- Reading roomy octets does not stop with a fault. -/
theorem Stop.Excused.ne_fault {size : Nat} {stop : Stop} (excused : stop.Excused size)
    (roomy : Roomy size) : stop ≠ .fault := by
  rintro rfl
  exact absurd roomy (Nat.not_lt.mpr excused)

/-- A stop that is no fault is a safe event. -/
theorem Event.safe_stopped {branch : Branch} {stop : Stop} (h : stop ≠ .fault) :
    (Event.stopped branch stop).Safe := by
  cases stop with
  | truncated => trivial
  | fault => exact absurd rfl h

/-! ## Steps -/

namespace Dissector

/-- Offering a span is safe if the span ends before the last offset. -/
theorem safe_addSpan (d : Dissector) {span : Span}
    (h : span.offset + span.length < offsetBound) : SafeTrace (d.addSpan span).2 := by
  unfold addSpan
  split <;> exact .one h

/-- Offering a span in the place of a record is safe if the span ends before the last offset. -/
theorem safe_updateSpan (d : Dissector) (index : Nat) {span : Span}
    (h : span.offset + span.length < offsetBound) : SafeTrace (d.updateSpan index span).2 := by
  unfold updateSpan
  split <;> exact .one h

variable {size : Nat} (roomy : Roomy size)

include roomy

/-- Taking a sound mark is safe. -/
theorem safe_takeMark (d : Dissector) {mark : Mark} (sound : mark.Sound size) :
    SafeTrace (d.takeMark mark).2 := by
  cases mark with
  | option span =>
    unfold takeMark
    dsimp only
    split
    · exact d.safe_addSpan (Span.Near.lt sound roomy)
    · exact .nil
  | fragment isLast => exact .one trivial

/-- Taking sound marks is safe. -/
theorem safe_takeMarks (d : Dissector) {marks : List Mark}
    (sound : ∀ mark ∈ marks, mark.Sound size) : SafeTrace (d.takeMarks marks).2 := by
  induction marks generalizing d with
  | nil => exact .nil
  | cons mark rest ih =>
    obtain ⟨first, others⟩ := List.forall_mem_cons.mp sound
    exact .append (safe_takeMark roomy d first) (ih _ others)

/-- Taking a header with a chain that is near is safe. -/
theorem safe_takeChained (d : Dissector) {base : Span} {marks : List Mark} {length : Nat}
    (near : base.offset + (base.length + length) ≤ size + overhang)
    (sound : ∀ mark ∈ marks, mark.Sound size) : SafeTrace (d.takeChained base marks length).2 := by
  -- The widened record is the longest span of the step.
  have whole : base.offset + (base.length + length) < offsetBound := Nat.lt_of_le_of_lt near roomy
  have alone : base.offset + base.length < offsetBound := by omega
  unfold takeChained
  split
  · exact .cons alone (safe_takeMarks roomy d sound)
  · next recorded _ =>
    refine .append (.cons alone (safe_takeMarks roomy recorded sound)) ?_
    split
    · exact .nil
    · exact safe_updateSpan _ _ whole

/-- Taking a sound step is safe. -/
theorem safe_take (d : Dissector) {step : Step} (sound : step.Sound size) :
    SafeTrace (d.take step).2 := by
  cases step with
  | header span => exact d.safe_addSpan (Span.Near.lt sound roomy)
  | mark mark => exact safe_takeMark roomy d sound
  | chained base marks length => exact safe_takeChained roomy d sound.1 sound.2
  | framing type => exact .nil
  | payload | remark => exact .one trivial

/-- Taking sound steps is safe. -/
theorem safe_takeAll (d : Dissector) {steps : List Step} (sound : ∀ step ∈ steps, step.Sound size) :
    SafeTrace (d.takeAll steps).2 := by
  induction steps generalizing d with
  | nil => exact .nil
  | cons step rest ih =>
    obtain ⟨first, others⟩ := List.forall_mem_cons.mp sound
    exact .append (safe_take roomy d first) (ih _ others)

end Dissector

/-! ## Sound handlers -/

/-- A program that does not fault, and offers no span that ends far behind the octets. -/
def Program.Sound (size : Nat) : Program → Prop
  | .done => True
  | .fault => offsetBound ≤ size + overhang
  | .note _ next => next.Sound size
  | .captureLength next => ∀ length, (next length).Sound size
  | .addSpan span next => span.Near size ∧ ∀ accepted, (next accepted).Sound size
  | .dissect _ _ _ next => next.Sound size

/-- A program that goes on with a guarded result is sound if what follows is. -/
theorem Program.Sound.ofRead {α : Type} {size : Nat} {result : Except Stop α} {Q : α → Prop}
    {next : α → Program} (h : Guarded size result Q)
    (rest : ∀ value, Q value → (next value).Sound size) :
    (Program.ofRead result next).Sound size := by
  cases result with
  | ok value => exact rest value h
  | error stop =>
    cases stop with
    | truncated => trivial
    | fault => exact h

/-- A handler whose answers are sound, whatever it is asked. -/
def Handler.Sound (handler : Handler) : Prop :=
  ∀ call : Consultation, (handler call).Sound call.data.size

namespace Tunnel

/-- One of the tunnel handlers, for any port. -/
inductive IsHandler : Handler → Prop
  /-- VXLAN. -/
  | vxlan (port : UInt16) : IsHandler (vxlan port)
  /-- Geneve. -/
  | geneve (port : UInt16) : IsHandler (geneve port)
  /-- ESP. -/
  | esp : IsHandler esp

/-- The VXLAN handler is sound. -/
theorem sound_vxlan (port : UInt16) : (vxlan port).Sound := by
  intro call
  unfold vxlan
  split
  · trivial
  · split
    · trivial
    · refine .ofRead (VxlanHeader.guarded_read call.data call.offset) fun header inside => ?_
      have near : call.offset + VxlanHeader.size ≤ call.data.size + overhang :=
        Nat.le_add_right_of_le inside
      split
      · trivial
      · refine ⟨near, fun accepted => ?_⟩
        dsimp only
        split
        · exact .ofRead (guarded_advance near) fun inner _ => trivial
        · trivial

/-- The Geneve handler is sound. -/
theorem sound_geneve (port : UInt16) : (geneve port).Sound := by
  intro call
  unfold geneve
  split
  · trivial
  · split
    · trivial
    · refine .ofRead (GeneveHeader.guarded_read call.data call.offset) fun header inside => ?_
      have near : call.offset + header.headerLength ≤ call.data.size + overhang :=
        Nat.add_le_add (Nat.le_of_add_right_le inside) header.headerLength_le
      split
      · trivial
      · refine ⟨near, fun accepted => ?_⟩
        dsimp only
        split
        · exact .ofRead (guarded_advance near) fun inner _ => trivial
        · trivial

/-- Recording ESP is sound. -/
theorem sound_recordEsp (data : Octets) (offset : Nat) :
    (recordEsp data offset).Sound data.size := by
  refine .ofRead (EspHeader.guarded_read data offset) fun header inside => ?_
  split
  · trivial
  · exact ⟨Nat.le_add_right_of_le inside, fun _ => trivial⟩

/-- The ESP handler is sound. -/
theorem sound_esp : esp.Sound := by
  intro call
  unfold esp
  split <;> split
  · exact sound_recordEsp call.data call.offset
  · trivial
  · exact sound_recordEsp call.data call.offset
  · trivial

/-- Every tunnel handler is sound. -/
theorem IsHandler.sound {handler : Handler} (h : IsHandler handler) : handler.Sound := by
  cases h with
  | vxlan port => exact sound_vxlan port
  | geneve port => exact sound_geneve port
  | esp => exact sound_esp

/-- The handlers on their assigned ports are tunnel handlers. -/
theorem isHandler_of_mem_handlers {entry : ProtocolId × Handler} (h : entry ∈ handlers) :
    IsHandler entry.2 := by
  simp only [handlers, List.mem_cons, List.not_mem_nil, or_false] at h
  rcases h with rfl | rfl | rfl | rfl | rfl
  · exact .vxlan vxlanPort
  · exact .geneve genevePort
  · exact .esp
  · exact .esp
  · exact .esp

end Tunnel

/-- A handler that is asked for an id is registered under it. -/
theorem Registry.mem_of_mem_handlers {registry : Registry} {id : ProtocolId}
    {found : Nat × Handler} (h : found ∈ registry.handlers id) :
    (id, found.2) ∈ registry.entries := by
  unfold handlers at h
  obtain ⟨⟨⟨registered, handler⟩, slot⟩, listed, chosen⟩ := List.mem_filterMap.mp h
  dsimp only at chosen
  split at chosen
  · next same =>
    cases chosen
    rw [← same]
    exact List.fst_mem_of_mem_zipIdx listed
  · cases chosen

/-! ## The walk -/

/-- The capture leaves the overhang of a header free behind it, and all handlers are sound. -/
structure Dissector.Secured (d : Dissector) : Prop where
  /-- Positions a little behind the capture are offsets. -/
  roomy : Roomy d.captureLength
  /-- Every handler that may be asked is sound. -/
  sound : ∀ registry, d.registry = some registry → ∀ entry ∈ registry.entries, entry.2.Sound

/-- An evolution keeps a dissector secured. -/
theorem Dissector.Secured.evolve {d d' : Dissector} {events : List Event} (h : d.Secured)
    (evolved : Evolves d events d') : d'.Secured where
  roomy := by
    rw [evolved.keeps.captureLength_eq]
    exact h.roomy
  sound := by
    rw [evolved.keeps.registry_eq]
    exact h.sound

/-- Octets that are part of the capture stay so. -/
theorem Evolves.le_captureLength {d d' : Dissector} {events : List Event} {size : Nat}
    (h : Evolves d events d') (captured : size ≤ d.captureLength) : size ≤ d'.captureLength := by
  rw [h.keeps.captureLength_eq]
  exact captured

/-- The outcome of a walk without faults. -/
structure Outcome.Safe (outcome : Outcome) : Prop where
  /-- All that happened is safe. -/
  events : SafeTrace outcome.events
  /-- Reading did not stop with a fault. -/
  stop : outcome.stop ≠ some .fault

/-- A safe outcome stays safe when its stop is told. -/
theorem Outcome.Safe.closed {outcome : Outcome} (h : outcome.Safe) (branch : Branch) :
    SafeTrace (outcome.closed branch).2 := by
  unfold Outcome.closed
  split
  · exact h.events
  · next stop stopped =>
    refine .append h.events (.one (Event.safe_stopped ?_))
    rintro rfl
    exact h.stop stopped

/-- Descending is safe for a secured dissector where so many levels are left. -/
def Descent.Safe (levels : Nat) (deeper : Descent) : Prop :=
  ∀ (entry : Entry) (data : Octets) (offset : Nat) (d : Dissector), d.levelsLeft = levels →
    d.Secured → data.size ≤ d.captureLength → (deeper entry data offset d).Safe

/-- All octets are taken if there are no more than the given number. -/
theorem Octets.upTo_size (data : Octets) : data.upTo data.size = data := by
  rw [upTo, Nat.min_self, Array.extract_size]

/-- No more octets than the given number are taken. -/
theorem Octets.size_upTo_le (data : Octets) (length : Nat) : (data.upTo length).size ≤ length := by
  rw [upTo, Array.size_extract]
  omega

section Walk

variable {levels : Nat} {deeper : Descent} (evolving : deeper.Evolving levels)
  (safe : deeper.Safe levels)

include safe

/-- Dissecting an encapsulated packet on behalf of a handler is safe, whatever the octets. -/
theorem Dissector.safe_reenter {d : Dissector} (left : d.levelsLeft = levels) (secured : d.Secured)
    (inner : Encapsulation) (data : Octets) (offset : Nat) :
    SafeTrace (d.reenter deeper inner data offset).2 := by
  -- However long the octets are, no more than the capture is looked at.
  have captured := data.size_upTo_le d.captureLength
  exact (safe inner.entry (data.upTo d.captureLength) offset d left secured captured).closed _

include evolving

/-- Granting the requests of a sound program is safe. -/
theorem Program.safe_run (program : Program) {size : Nat} (sound : program.Sound size)
    {d : Dissector} (left : d.levelsLeft = levels) (secured : d.Secured)
    (captured : size ≤ d.captureLength) : SafeTrace (program.run deeper d).2 := by
  have roomy : Roomy size := Nat.lt_of_le_of_lt (Nat.add_le_add_right captured _) secured.roomy
  -- Induction on the requests. What is granted on the way keeps the levels, the handlers and the
  -- capture, so the rest of the program starts from a dissector that is secured as well.
  induction program generalizing d with
  | done => exact .nil
  | fault => exact absurd roomy (Nat.not_lt.mpr sound)
  | note text next ih => exact .cons trivial (ih sound left secured captured)
  | captureLength next ih => exact ih _ (sound _) left secured captured
  | addSpan span next ih =>
    obtain ⟨near, rest⟩ := sound
    unfold run
    split
    · next recorded offered =>
      have stored := Evolves.store offered
      exact .cons (near.lt roomy) (ih true (rest true) (stored.levelsLeft_eq.trans left)
        (secured.evolve stored) (stored.le_captureLength captured))
    · exact .cons (near.lt roomy) (ih false (rest false) left secured captured)
  | dissect inner data offset next ih =>
    have first := Dissector.evolves_reenter evolving left inner data offset
    exact .append (Dissector.safe_reenter safe left secured inner data offset)
      (ih sound (first.levelsLeft_eq.trans left) (secured.evolve first)
        (first.le_captureLength captured))

namespace Dissector

/-- Asking sound handlers is safe. -/
theorem safe_askAll (call : Consultation) {handlers : List (Nat × Handler)}
    (sound : ∀ entry ∈ handlers, entry.2.Sound) {d : Dissector} (left : d.levelsLeft = levels)
    (secured : d.Secured) (captured : call.data.size ≤ d.captureLength) :
    SafeTrace (askAll deeper call handlers d).2 := by
  induction handlers generalizing d with
  | nil => exact .nil
  | cons entry rest ih =>
    obtain ⟨slot, handler⟩ := entry
    obtain ⟨here, others⟩ := List.forall_mem_cons.mp sound
    have first := (handler call).evolves_run evolving left
    have asked := (handler call).safe_run evolving safe (here call) left secured captured
    exact .cons trivial (.append asked (ih others (first.levelsLeft_eq.trans left)
      (secured.evolve first) (first.le_captureLength captured)))

/-- Asking the handlers of a registry of sound ones is safe. -/
theorem safe_consult (call : Consultation) {d : Dissector} (left : d.levelsLeft = levels)
    (secured : d.Secured) (captured : call.data.size ≤ d.captureLength) :
    SafeTrace (consult deeper call d).2 := by
  cases found : d.registry with
  | some registry =>
    rw [consult, found]
    refine safe_askAll evolving safe call ?_ left secured captured
    intro entry member
    exact secured.sound registry found (call.id, entry.2) (Registry.mem_of_mem_handlers member)
  | none =>
    cases about : call.inquiry with
    | ports source destination =>
      rw [consult, found, about]
      exact .nil
    | nextHeader value =>
      rw [consult, found, about]
      exact .one trivial

/-- Following a sound reading of captured octets is safe. -/
theorem safe_follow {data : Octets} {reading : Reading} (sound : reading.Sound data.size)
    {d : Dissector} (left : d.levelsLeft = levels) (secured : d.Secured)
    (captured : data.size ≤ d.captureLength) : (follow deeper data reading d).Safe := by
  have roomy : Roomy data.size := Nat.lt_of_le_of_lt (Nat.add_le_add_right captured _) secured.roomy
  have taken := d.evolves_takeAll sound.steps
  have steps := safe_takeAll roomy d sound.steps
  have still := taken.levelsLeft_eq.trans left
  have stays := taken.le_captureLength captured
  have ending := sound.ending
  unfold follow
  dsimp only
  split
  · exact ⟨steps, nofun⟩
  · next stop stopped =>
    -- A sound ending is excused, and captured octets leave no excuse for a fault.
    rw [stopped] at ending
    have excused : stop.Excused data.size := ending
    refine ⟨steps, ?_⟩
    rintro ⟨⟩
    exact excused.ne_fault roomy rfl
  · next entry offset _ =>
    obtain ⟨events, stop⟩ := safe entry data offset _ still (secured.evolve taken) stays
    exact ⟨.append steps events, stop⟩
  · exact ⟨.append steps (safe_consult evolving safe _ still (secured.evolve taken) stays), nofun⟩

end Dissector

end Walk

namespace Dissector

/-- Entering encapsulated packets is safe, however many levels are left. -/
theorem safe_descend (levels : Nat) : Descent.Safe levels (descend levels) := by
  -- Induction on the levels that are left, as for `evolves_descend`.
  induction levels with
  | zero =>
    intro entry data offset d left secured captured
    exact ⟨.one trivial, nofun⟩
  | succ levels ih =>
    intro entry data offset d left secured captured
    have entered : Secured { d with depth := d.depth + 1 } := ⟨secured.roomy, secured.sound⟩
    obtain ⟨events, stop⟩ := safe_follow (evolves_descend levels) ih
      (Reading.sound_read data entry offset) (levelsLeft_enter left) entered captured
    exact ⟨.append (.cons trivial events) (.one trivial), stop⟩

/-- Dissecting an encapsulated packet on behalf of a caller is safe. -/
theorem safe_dissectInner {d : Dissector} (secured : d.Secured) (inner : Encapsulation)
    (data : Octets) (offset : Nat) : SafeTrace (d.dissectInner inner data offset).2 :=
  safe_reenter (safe_descend d.levelsLeft) rfl secured inner data offset

/-- Dissecting a capture is safe. -/
theorem safe_dissect {d : Dissector} {buffer : Octets} {captureLength wireLength : Nat}
    {timestamp : UInt64} (secured : (d.started captureLength wireLength timestamp).Secured)
    {traced : Traced} (h : d.dissect buffer captureLength wireLength timestamp = .ok traced) :
    SafeTrace traced.2 := by
  have captured : (buffer.extract 0 captureLength).size ≤ captureLength := by
    rw [Array.size_extract]
    omega
  obtain ⟨-, -, rfl⟩ := of_dissect h
  exact (safe_follow (evolves_descend _) (safe_descend _)
    (sound_readLink d.config.link (buffer.extract 0 captureLength)) rfl secured captured).closed _

end Dissector

end FrameSpans
