import FrameSpans.Proofs.Dissector.Steps
import FrameSpans.Proofs.Dissector.Walk
import FrameSpans.Proofs.Registry

/-!
# Every handler of an id is heard

A level may end with a consultation: the handlers that are registered under an id are asked about the
octets behind a header. Each of them is asked once, in the order of their registration, and all of
them are asked the same (`Ending.questions`). This holds whatever the handlers do. Spans that one of
them records, or that are refused, do not keep the next one from being asked; nor do packets that it
has dissected, in which the same handlers may be asked again.

`Hearing` tells so of a trace. It goes along the trace and takes it apart: events that ask nobody,
questions with the answers of the handlers, and packets inside with questions of their own. What a
handler answers holds no question about the packet itself, so the questions of a level are told apart
from those of packets that were entered meanwhile. The dissector is carried along, and every handler
finds it as those before left it.

The proof follows the walk, as that of `Dissector.evolves_descend` does.
-/

namespace FrameSpans

/-! ## Questions -/

/-- A question to the handler in a slot of a registry. -/
abbrev Question := Nat × Consultation

/-- The questions that a level ends with: one for each handler of the id, in the order of their
registration, and the same for all of them. -/
def Ending.questions (entries : List (ProtocolId × Handler)) (data : Octets) :
    Ending → List Question
  | .complete | .stopped _ | .encapsulated .. => []
  | .consult id offset inquiry =>
    (Registry.slots entries id).map fun slot => (slot, ⟨data, offset, id, inquiry⟩)

/-- Whether an event asks nobody, and neither enters nor leaves a packet. -/
def Event.AsksNobody : Event → Prop
  | .asked .. | .entered _ | .left => False
  | _ => True

/-- The dissector may change like this while these events happen, and these questions are asked, one
after the other, about the packet that is being dissected, by handlers that are registered in these
slots. Questions about packets that are entered meanwhile do not count. -/
inductive Hearing (entries : List (ProtocolId × Handler)) :
    Dissector → List Event → List Question → Dissector → Prop
  /-- Nothing happens. -/
  | nothing (d : Dissector) : Hearing entries d [] [] d
  /-- Nobody is asked. -/
  | quiet {d d₁ d₂ : Dissector} {events more : List Event} {questions : List Question}
    (change : Evolves d events d₁) (asks : ∀ event ∈ events, event.AsksNobody)
    (rest : Hearing entries d₁ more questions d₂) :
    Hearing entries d (events ++ more) questions d₂
  /-- The handler in a slot is asked. What happens then is what it requests, and it asks nothing more
  about this packet. -/
  | asked {d d₁ d₂ : Dissector} {slot : Nat} {call : Consultation} {handler : Handler}
    {answer more : List Event} {questions : List Question}
    (registered : entries[slot]? = some (call.id, handler))
    (answers : (handler call).run (Dissector.descend d.levelsLeft) d = (d₁, answer))
    (inside : Hearing entries d answer [] d₁) (rest : Hearing entries d₁ more questions d₂) :
    Hearing entries d (.asked slot call :: answer ++ more) ((slot, call) :: questions) d₂
  /-- A packet is entered, and left again. The questions about it are those that its reading ends
  with. -/
  | packet {d d₁ d₂ : Dissector} {entry : Entry} {data : Octets} {offset : Nat}
    {events more : List Event} {questions : List Question}
    (inside : Hearing entries { d with depth := d.depth + 1 } events
      ((Reading.read entry data offset).ending.questions entries data) d₁)
    (rest : Hearing entries { d₁ with depth := d₁.depth - 1 } more questions d₂) :
    Hearing entries d (.entered (d.depth + 1) :: events ++ .left :: more) questions d₂

namespace Hearing

variable {entries : List (ProtocolId × Handler)} {d d₁ d₂ : Dissector} {events more : List Event}
  {questions others : List Question}

/-- What is asked one behind the other. -/
theorem append (first : Hearing entries d events questions d₁)
    (second : Hearing entries d₁ more others d₂) :
    Hearing entries d (events ++ more) (questions ++ others) d₂ := by
  induction first with
  | nothing => exact second
  | quiet change asks _ ih =>
    rw [List.append_assoc]
    exact .quiet change asks (ih second)
  | asked registered answers inside _ _ ih =>
    rw [List.append_assoc]
    exact .asked registered answers inside (ih second)
  | packet inside _ _ ih =>
    rw [List.append_assoc]
    exact .packet inside (ih second)

/-- A change during which nobody is asked. -/
theorem of_quiet (change : Evolves d events d₁) (asks : ∀ event ∈ events, event.AsksNobody) :
    Hearing entries d events [] d₁ := by
  have rest : Hearing entries d₁ [] [] d₁ := .nothing d₁
  have alone := Hearing.quiet change asks rest
  rwa [List.append_nil] at alone

/-- One event that asks nobody. -/
theorem one {event : Event} (change : Evolves d [event] d₁) (asks : event.AsksNobody) :
    Hearing entries d [event] [] d₁ :=
  .of_quiet change (List.forall_mem_singleton.mpr asks)

end Hearing

/-- Telling why reading stopped asks nobody. -/
theorem Outcome.hearing_closed {entries : List (ProtocolId × Handler)} {d : Dissector}
    {outcome : Outcome} {questions : List Question}
    (h : Hearing entries d outcome.events questions outcome.dissector) (branch : Branch) :
    Hearing entries d (outcome.closed branch).2 questions (outcome.closed branch).1 := by
  unfold closed
  split
  · exact h
  · next stop _ =>
    have told : Hearing entries outcome.dissector [.stopped branch stop] [] outcome.dissector :=
      .one (.notice _ trivial) trivial
    have both := h.append told
    rwa [List.append_nil] at both

/-- Taking the steps of a reading asks nobody. -/
theorem Dissector.hearing_takeAll (entries : List (ProtocolId × Handler)) (d : Dissector)
    {size : Nat} {steps : List Step} (sound : ∀ step ∈ steps, step.Sound size) :
    Hearing entries d (d.takeAll steps).2 [] (d.takeAll steps).1 := by
  refine .of_quiet (d.evolves_takeAll sound) fun event member => ?_
  have noted := d.ofStep_takeAll steps event member
  cases event with
  | asked | entered | left => exact noted.elim
  | _ => trivial

/-! ## Handlers -/

/-- Where so many levels are left, packets that are entered are heard, with nothing asked about the
packet around them. -/
def Dissector.Hears (registry : Registry) (levels : Nat) : Prop :=
  ∀ (entry : Entry) (data : Octets) (offset : Nat) {d : Dissector}, d.registry = some registry →
    d.levelsLeft = levels → Hearing registry.entries d (descend levels entry data offset d).events []
      (descend levels entry data offset d).dissector

section Handlers

variable {registry : Registry} {levels : Nat} (hears : Dissector.Hears registry levels)
  {d : Dissector} (held : d.registry = some registry) (left : d.levelsLeft = levels)

include hears held left

/-- Dissecting an encapsulated packet on behalf of a handler. -/
theorem Dissector.hearing_reenter (inner : Encapsulation) (data : Octets) (offset : Nat) :
    Hearing registry.entries d (d.reenter (descend levels) inner data offset).2 []
      (d.reenter (descend levels) inner data offset).1 := by
  have entered := hears inner.entry (data.upTo d.captureLength) offset held left
  exact Outcome.hearing_closed entered (.encapsulated inner offset)

/-- Granting the requests of a handler. -/
theorem Program.hearing_run (program : Program) :
    Hearing registry.entries d (program.run (Dissector.descend levels) d).2 []
      (program.run (Dissector.descend levels) d).1 := by
  induction program generalizing d with
  | done => exact .nothing d
  | fault => exact .one (.notice d trivial) trivial
  | note text next ih =>
    have noted : Hearing registry.entries d [.note text] [] d := .one (.notice d trivial) trivial
    exact noted.append (ih held left)
  | captureLength next ih => exact ih d.captureLength held left
  | addSpan span next ih =>
    unfold run
    split
    · next recorded offered =>
      have stored := Evolves.store offered
      exact .append (.one stored trivial)
        (ih true (stored.keeps.registry_eq.trans held) (stored.levelsLeft_eq.trans left))
    · next reason refused => exact .append (.one (.refuse refused) trivial) (ih false held left)
  | dissect inner data offset next ih =>
    have first := Dissector.evolves_reenter (Dissector.evolves_descend levels) left inner data offset
    exact .append (Dissector.hearing_reenter hears held left inner data offset)
      (ih (first.keeps.registry_eq.trans held) (first.levelsLeft_eq.trans left))

namespace Dissector

/-- Asking handlers that are registered under the id of a consultation. -/
theorem hearing_askAll (call : Consultation) {handlers : List (Nat × Handler)}
    (registered : ∀ found ∈ handlers, registry.entries[found.1]? = some (call.id, found.2)) :
    Hearing registry.entries d (askAll (descend levels) call handlers d).2
      (handlers.map fun found => (found.1, call)) (askAll (descend levels) call handlers d).1 := by
  -- Induction on the handlers: the next one is asked whatever the first one made of the dissector.
  induction handlers generalizing d with
  | nil => exact .nothing d
  | cons found rest ih =>
    obtain ⟨slot, handler⟩ := found
    obtain ⟨here, others⟩ := List.forall_mem_cons.mp registered
    have ran := (handler call).evolves_run (evolves_descend levels) left
    have inside := (handler call).hearing_run hears held left
    subst left
    exact .asked here rfl inside
      (ih (ran.keeps.registry_eq.trans held) ran.levelsLeft_eq others)

/-- Asking the handlers of a registry. -/
theorem hearing_consult (data : Octets) (id : ProtocolId) (offset : Nat) (inquiry : Inquiry) :
    Hearing registry.entries d (consult (descend levels) ⟨data, offset, id, inquiry⟩ d).2
      ((Ending.consult id offset inquiry).questions registry.entries data)
      (consult (descend levels) ⟨data, offset, id, inquiry⟩ d).1 := by
  have registered : ∀ found ∈ registry.handlers id,
      registry.entries[found.1]? = some (id, found.2) :=
    fun _ member => Registry.getElem?_of_mem_handlers member
  have asked := hearing_askAll hears held left ⟨data, offset, id, inquiry⟩ registered
  have questions : (Ending.consult id offset inquiry).questions registry.entries data =
      (registry.handlers id).map fun found => (found.1, ⟨data, offset, id, inquiry⟩) := by
    rw [Ending.questions, ← registry.slots_handlers, List.map_map]
    rfl
  rw [consult, held, questions]
  exact asked

/-- Following a reading asks the questions that it ends with. -/
theorem hearing_follow (data : Octets) {size : Nat} {reading : Reading}
    (sound : reading.Sound size) :
    Hearing registry.entries d (follow (descend levels) data reading d).events
      (reading.ending.questions registry.entries data)
      (follow (descend levels) data reading d).dissector := by
  have steps := hearing_takeAll registry.entries d sound.steps
  have taken := d.evolves_takeAll sound.steps
  have held' := taken.keeps.registry_eq.trans held
  have left' := taken.levelsLeft_eq.trans left
  unfold follow
  dsimp only
  split
  · next ending =>
    rw [ending]
    exact steps
  · next stop ending =>
    rw [ending]
    exact steps
  · next entry offset ending =>
    rw [ending]
    exact steps.append (hears entry data offset held' left')
  · next id offset inquiry ending =>
    rw [ending]
    exact steps.append (hearing_consult hears held' left' data id offset inquiry)

end Dissector

end Handlers

namespace Dissector

/-- Packets that are entered are heard, however many levels are left. -/
theorem hears_descend (registry : Registry) (levels : Nat) : Hears registry levels := by
  -- Induction on the levels that are left: a level is followed with one level less.
  induction levels with
  | zero =>
    intro entry data offset d held left
    exact .one (evolves_descend 0 entry data offset d left) trivial
  | succ levels ih =>
    intro entry data offset d held left
    have followed := hearing_follow ih (d := { d with depth := d.depth + 1 }) held
      (levelsLeft_enter left) data (Reading.sound_read data entry offset)
    exact .packet followed (.nothing _)

/-! ## Dissections -/

/-- Whatever is registered in an empty registry, one handler at a time or all tunnel handlers at
once, it holds the first handlers that were to be attached, as many as it has room for. A
registration for which there is no room fails, and a full registry stays as it is. In every
dissection over this registry each handler of an id that is consulted is asked once, in the order of
registration, and all are asked the same: those of the capture, and those of each packet inside,
whatever the handlers request. -/
theorem every_handler_heard (registrations : List Registration) :
    let listed := registrations.flatMap Registration.entries
    let registry := Registry.empty.after registrations
    registry.entries = listed.take maxHandlers ∧
      (∀ before registration rest, registrations = before ++ registration :: rest →
        ((Registry.empty.after before).perform registration).2 =
            (if (before.flatMap Registration.entries).length + registration.entries.length ≤
              maxHandlers then .ok () else .error .exhausted) ∧
          (maxHandlers ≤ (before.flatMap Registration.entries).length →
            (Registry.empty.after before).perform registration =
              (Registry.empty.after before, .error .exhausted))) ∧
      ∀ d : Dissector, d.registry = some registry →
        (∀ (buffer : Octets) (captureLength wireLength : Nat) (timestamp : UInt64),
          captureLength ≤ buffer.size → captureLength ≤ wireLength →
            ∃ traced, d.dissect buffer captureLength wireLength timestamp = .ok traced ∧
              Hearing (listed.take maxHandlers) (d.started captureLength wireLength timestamp)
                traced.2
                ((readLink d.config.link (buffer.extract 0 captureLength)).ending.questions
                  (listed.take maxHandlers) (buffer.extract 0 captureLength))
                traced.1) ∧
          ∀ (inner : Encapsulation) (data : Octets) (offset : Nat),
            Hearing (listed.take maxHandlers) d (d.dissectInner inner data offset).2 []
              (d.dissectInner inner data offset).1 := by
  intro listed registry
  have entries : registry.entries = listed.take maxHandlers := Registry.entries_after _ _
  refine ⟨entries, fun before registration rest _ =>
    ⟨Registry.result_perform_after before registration, fun many => ?_⟩, fun d held => ⟨?_, ?_⟩⟩
  · refine Registry.perform_of_full ?_ registration
    rw [Registry.entries_after, List.length_take]
    exact Nat.le_min.mpr ⟨Nat.le_refl _, many⟩
  · intro buffer captureLength wireLength timestamp inside wired
    refine ⟨_, dissect_held inside wired timestamp, ?_⟩
    have followed := hearing_follow (hears_descend registry _)
      (d := d.started captureLength wireLength timestamp) held rfl
      (buffer.extract 0 captureLength)
      (sound_readLink d.config.link (buffer.extract 0 captureLength))
    rw [entries] at followed
    exact Outcome.hearing_closed followed (.capture captureLength)
  · intro inner data offset
    have entered := hearing_reenter (hears_descend registry _) held rfl inner data offset
    rw [entries] at entered
    exact entered

/-- Fourteen handlers are registered before the tunnel handlers, so only those of VXLAN and Geneve
find room. In a packet of UDP in VXLAN both are asked about the outer datagram. The one of VXLAN has
the packet inside dissected, where both are asked about the inner datagram, before the one of Geneve
is asked about the outer one. -/
theorem every_handler_heard_vxlan :
    let before : List Registration := List.replicate 14 (.single .ipv4 Tunnel.esp)
    let registrations := before ++ [.tunnels, .single .udp Tunnel.esp]
    let listed := registrations.flatMap Registration.entries
    let registry := Registry.empty.after registrations
    let buffer : Octets :=
      #[0x45, 0, 0, 78, 0, 0, 0, 0, 64, 17, 0, 0, 10, 0, 0, 1, 10, 0, 0, 2,
        0x12, 0xb5, 0x12, 0xb5, 0, 58, 0, 0, 8, 0, 0, 0, 0, 0, 1, 0,
        2, 0, 0, 0, 0, 1, 2, 0, 0, 0, 0, 2, 0x08, 0x00,
        0x45, 0, 0, 28, 0, 0, 0, 0, 64, 17, 0, 0, 10, 0, 0, 3, 10, 0, 0, 4, 0, 53, 0, 53, 0, 8, 0, 0]
    let d : Dissector := { config := { link := .rawIp }, registry := some registry }
    let outer : Consultation := ⟨buffer, 28, .udp, .ports 0x12b5 0x12b5⟩
    let inner : Consultation := ⟨buffer, 78, .udp, .ports 53 53⟩
    registrations = before ++ .tunnels :: [.single .udp Tunnel.esp] ∧
      ((Registry.empty.after before).perform .tunnels).2 = .error .exhausted ∧
      registry.entries = listed.take maxHandlers ∧
      d.registry = some registry ∧ 78 ≤ buffer.size ∧
      ∃ traced, d.dissect buffer 78 78 0 = .ok traced ∧
        Hearing (listed.take maxHandlers) (d.started 78 78 0) traced.2 [(14, outer), (15, outer)]
          traced.1 ∧
        (traced.2.filterMap fun event =>
          match event with
          | .asked slot call => some (slot, call)
          | _ => none) = [(14, outer), (14, inner), (15, inner), (15, outer)] := by
  intro before registrations listed registry buffer d outer inner
  obtain ⟨entries, results, dissections⟩ := every_handler_heard registrations
  have held : 78 ≤ buffer.size := by decide
  obtain ⟨failed, -⟩ := results before .tunnels [.single .udp Tunnel.esp] rfl
  obtain ⟨traced, dissected, heard⟩ := (dissections d rfl).1 buffer 78 78 0 held (Nat.le_refl 78)
  have questions : (readLink d.config.link (buffer.extract 0 78)).ending.questions
      (listed.take maxHandlers) (buffer.extract 0 78) = [(14, outer), (15, outer)] := by
    decide +kernel
  have heard : Hearing (listed.take maxHandlers) (d.started 78 78 0) traced.2
      [(14, outer), (15, outer)] traced.1 := questions ▸ heard
  have told : (d.dissect buffer 78 78 0).toOption.map (fun traced =>
      traced.2.filterMap fun event =>
        match event with
        | .asked slot call => some (slot, call)
        | _ => none) = some [(14, outer), (14, inner), (15, inner), (15, outer)] := by
    decide +kernel
  rw [dissected] at told
  exact ⟨rfl, failed.trans (if_neg (by decide)), entries, rfl, held, traced, dissected, heard,
    Option.some.inj told⟩

end Dissector

end FrameSpans
