import FrameSpans.Proofs.Dissector.Safety
import FrameSpans.Proofs.Dissector.Steps

/-!
# Where handlers are asked

A dissection asks handlers about octets behind a header that was captured completely, with one
exception: the chain of extension headers of an IPv6 header goes by the lengths that they tell, so
it may end behind the captured octets, at the end of an extension header that was cut off. If the
chain names a payload without built-in handling, the handlers of the IPv6 header are asked about it
all the same, at an offset where nothing was captured (`asked_behind_capture`).

`consultations_within` tells that this is the only exception. Handlers may dissect encapsulated
packets in their turn, but only within the octets that they were asked about
(`Handler.StaysWithin`), as the tunnel handlers do. The proof follows the walk as those of
`Dissector.evolves_descend` and `Dissector.safe_descend` do.
-/

namespace FrameSpans

/-! ## Handlers that stay within the octets -/

/-- A program that dissects encapsulated packets only in the given octets, and nowhere behind them.
It may go by what it learns on the way: how many octets there are, and that a span that was accepted
ends within them. -/
def Program.StaysWithin (data : Octets) : Program → Prop
  | .done | .fault => True
  | .note _ next => next.StaysWithin data
  | .captureLength next => (next data.size).StaysWithin data
  | .addSpan span next =>
    (span.offset + span.length ≤ data.size → (next true).StaysWithin data) ∧
      (next false).StaysWithin data
  | .dissect _ octets offset next =>
    octets = data ∧ offset ≤ data.size ∧ next.StaysWithin data

/-- A program that goes on with what was read stays within the octets if what follows does. -/
theorem Program.StaysWithin.ofRead {α : Type} {data : Octets} {result : Except Stop α}
    {next : α → Program} (rest : ∀ value, result = .ok value → (next value).StaysWithin data) :
    (Program.ofRead result next).StaysWithin data := by
  cases result with
  | ok value => exact rest value rfl
  | error stop => cases stop <;> trivial

/-- A handler that stays within the octets that it is asked about. -/
def Handler.StaysWithin (handler : Handler) : Prop :=
  ∀ call : Consultation, (handler call).StaysWithin call.data

namespace Tunnel

/-- The VXLAN handler goes on behind a header that was captured. -/
theorem staysWithin_vxlan (port : UInt16) : (vxlan port).StaysWithin := by
  intro call
  unfold vxlan
  split
  · trivial
  · split
    · trivial
    · refine .ofRead fun header read => ?_
      have inside := (VxlanHeader.guarded_read call.data call.offset).value read
      split
      · trivial
      · refine ⟨fun _ => .ofRead fun inner sum => ?_, trivial⟩
        obtain rfl := eq_add_of_advance sum
        exact ⟨rfl, inside, trivial⟩

/-- The Geneve handler goes on behind a span that was accepted. -/
theorem staysWithin_geneve (port : UInt16) : (geneve port).StaysWithin := by
  intro call
  unfold geneve
  split
  · trivial
  · split
    · trivial
    · refine .ofRead fun header read => ?_
      split
      · trivial
      · refine ⟨fun inside => .ofRead fun inner sum => ?_, trivial⟩
        obtain rfl := eq_add_of_advance sum
        exact ⟨rfl, inside, trivial⟩

/-- The ESP handler dissects nothing. -/
theorem staysWithin_esp : esp.StaysWithin := by
  have recorded (data : Octets) (offset : Nat) : (recordEsp data offset).StaysWithin data := by
    refine .ofRead fun header _ => ?_
    split
    · trivial
    · exact ⟨fun _ => trivial, trivial⟩
  intro call
  unfold esp
  split <;> split
  · exact recorded call.data call.offset
  · trivial
  · exact recorded call.data call.offset
  · trivial

/-- Every tunnel handler stays within the octets that it is asked about. -/
theorem IsHandler.staysWithin {handler : Handler} (h : IsHandler handler) :
    handler.StaysWithin := by
  cases h with
  | vxlan port => exact staysWithin_vxlan port
  | geneve port => exact staysWithin_geneve port
  | esp => exact staysWithin_esp

end Tunnel

/-! ## Consultations within the octets -/

/-- Handlers are asked about the given octets, and if not about a place in them, then about the end
of a chain of extension headers. -/
def Event.AsksWithin (data : Octets) : Event → Prop
  | .asked _ call => call.data = data ∧ call.inquiry.Placed data call.id call.offset
  | _ => True

/-- A trace of such events. -/
def AskedWithin (data : Octets) (events : List Event) : Prop :=
  ∀ event ∈ events, event.AsksWithin data

namespace AskedWithin

variable {data : Octets}

/-- Nothing that happens asks nobody. -/
theorem nil : AskedWithin data [] :=
  nofun

/-- An event that asks within the octets in front of such events. -/
theorem cons {event : Event} {events : List Event} (first : event.AsksWithin data)
    (rest : AskedWithin data events) : AskedWithin data (event :: events) :=
  List.forall_mem_cons.mpr ⟨first, rest⟩

/-- Traces that ask within the octets, one behind the other. -/
theorem append {events more : List Event} (first : AskedWithin data events)
    (rest : AskedWithin data more) : AskedWithin data (events ++ more) :=
  List.forall_mem_append.mpr ⟨first, rest⟩

/-- While steps are taken nobody is asked. -/
theorem takeAll (d : Dissector) (steps : List Step) : AskedWithin data (d.takeAll steps).2 := by
  intro event member
  have noted := d.ofStep_takeAll steps event member
  cases event with
  | asked => exact noted.elim
  | _ => trivial

end AskedWithin

/-- What happened asks within the octets whether or not reading stopped. -/
theorem Outcome.askedWithin_closed {data : Octets} {outcome : Outcome}
    (h : AskedWithin data outcome.events) (branch : Branch) :
    AskedWithin data (outcome.closed branch).2 := by
  unfold closed
  split
  · exact h
  · exact .append h (.cons trivial .nil)

/-! ## The walk -/

/-- The dissector of a capture whose handlers stay within the octets that they are asked about. -/
structure Dissector.Consulting (data : Octets) (d : Dissector) : Prop where
  /-- The octets are the capture. -/
  captureLength_eq : d.captureLength = data.size
  /-- Every handler stays within them. -/
  within : ∀ registry, d.registry = some registry → ∀ entry ∈ registry.entries, entry.2.StaysWithin

/-- An evolution keeps the capture and the handlers. -/
theorem Dissector.Consulting.evolve {data : Octets} {d d' : Dissector} {events : List Event}
    (h : d.Consulting data) (evolved : Evolves d events d') : d'.Consulting data where
  captureLength_eq := evolved.keeps.captureLength_eq.trans h.captureLength_eq
  within := by
    rw [evolved.keeps.registry_eq]
    exact h.within

/-- Descending into a place in the octets asks within them, where so many levels are left. -/
def Descent.Consulting (data : Octets) (levels : Nat) (deeper : Descent) : Prop :=
  ∀ (entry : Entry) (offset : Nat) (d : Dissector), d.levelsLeft = levels → d.Consulting data →
    entry.Placed data offset → AskedWithin data (deeper entry data offset d).events

section Walk

variable {data : Octets} {levels : Nat} {deeper : Descent} (evolving : deeper.Evolving levels)
  (asking : deeper.Consulting data levels)

include asking

/-- Dissecting an encapsulated packet on behalf of a handler asks within the octets. -/
theorem Dissector.askedWithin_reenter {d : Dissector} (left : d.levelsLeft = levels)
    (h : d.Consulting data) (inner : Encapsulation) {offset : Nat} (inside : offset ≤ data.size) :
    AskedWithin data (d.reenter deeper inner data offset).2 := by
  -- The octets are no longer than the capture, so all of them are handed on.
  have same : data.upTo d.captureLength = data := by
    rw [h.captureLength_eq, Octets.upTo_size]
  have asked := asking inner.entry offset d left h (.inl inside)
  unfold reenter
  dsimp only
  rw [same]
  exact Outcome.askedWithin_closed asked (.encapsulated inner offset)

include evolving

/-- Granting the requests of a program that stays within the octets asks within them. -/
theorem Program.askedWithin_run (program : Program) (stays : program.StaysWithin data)
    {d : Dissector} (left : d.levelsLeft = levels) (h : d.Consulting data) :
    AskedWithin data (program.run deeper d).2 := by
  -- Induction on the requests, as for `Program.safe_run`.
  induction program generalizing d with
  | done => exact .nil
  | fault => exact .cons trivial .nil
  | note text next ih => exact .cons trivial (ih stays left h)
  | captureLength next ih =>
    refine ih d.captureLength ?_ left h
    rw [h.captureLength_eq]
    exact stays
  | addSpan span next ih =>
    obtain ⟨accepted, refused⟩ := stays
    unfold run
    split
    · next recorded offered =>
      have stored := Evolves.store offered
      obtain ⟨-, ⟨inside, -⟩, -⟩ := Dissector.of_offer offered
      rw [h.captureLength_eq] at inside
      exact .cons trivial
        (ih true (accepted inside) (stored.levelsLeft_eq.trans left) (h.evolve stored))
    · exact .cons trivial (ih false refused left h)
  | dissect inner octets offset next ih =>
    obtain ⟨rfl, inside, rest⟩ := stays
    have first := Dissector.evolves_reenter evolving left inner octets offset
    exact .append (Dissector.askedWithin_reenter asking left h inner inside)
      (ih rest (first.levelsLeft_eq.trans left) (h.evolve first))

namespace Dissector

/-- Asking handlers within the octets. -/
theorem askedWithin_askAll {call : Consultation} (here : call.data = data)
    (placed : call.inquiry.Placed data call.id call.offset) {handlers : List (Nat × Handler)}
    (within : ∀ entry ∈ handlers, entry.2.StaysWithin) {d : Dissector}
    (left : d.levelsLeft = levels) (h : d.Consulting data) :
    AskedWithin data (askAll deeper call handlers d).2 := by
  induction handlers generalizing d with
  | nil => exact .nil
  | cons entry rest ih =>
    obtain ⟨slot, handler⟩ := entry
    obtain ⟨stays, others⟩ := List.forall_mem_cons.mp within
    have first := (handler call).evolves_run evolving left
    have ran := (handler call).askedWithin_run evolving asking (here ▸ stays call) left h
    exact .cons ⟨here, placed⟩
      (.append ran (ih others (first.levelsLeft_eq.trans left) (h.evolve first)))

/-- Asking the handlers of a registry within the octets. -/
theorem askedWithin_consult (call : Consultation) (here : call.data = data)
    (placed : call.inquiry.Placed data call.id call.offset) {d : Dissector}
    (left : d.levelsLeft = levels) (h : d.Consulting data) :
    AskedWithin data (consult deeper call d).2 := by
  unfold consult
  split
  · next registry found =>
    refine askedWithin_askAll evolving asking here placed (fun entry member => ?_) left h
    exact h.within registry found _ (Registry.mem_of_mem_handlers member)
  · exact .cons trivial .nil
  · exact .nil

/-- Following a placed reading asks within the octets. -/
theorem askedWithin_follow {start : Nat} {reading : Reading} (sound : reading.Sound data.size)
    (placed : reading.Placed data start) {d : Dissector} (left : d.levelsLeft = levels)
    (h : d.Consulting data) : AskedWithin data (follow deeper data reading d).events := by
  -- The steps ask nobody, so it comes down to the ending.
  have taken := d.evolves_takeAll sound.steps
  have still := taken.levelsLeft_eq.trans left
  have steps : AskedWithin data (d.takeAll reading.steps).2 := .takeAll d reading.steps
  have place := placed.ending
  unfold follow
  dsimp only
  split
  · exact steps
  · exact steps
  · next entry offset ending =>
    rw [ending] at place
    exact .append steps (asking entry offset _ still (h.evolve taken) place.2)
  · next id offset inquiry ending =>
    rw [ending] at place
    exact .append steps
      (askedWithin_consult evolving asking ⟨data, offset, id, inquiry⟩ rfl place still
        (h.evolve taken))

end Dissector

end Walk

namespace Dissector

/-- Entering encapsulated packets asks within the octets, however many levels are left. -/
theorem askedWithin_descend (data : Octets) (levels : Nat) :
    Descent.Consulting data levels (descend levels) := by
  -- Induction on the levels that are left, as for `evolves_descend`.
  induction levels with
  | zero => exact fun entry offset d _ _ _ => .cons trivial .nil
  | succ levels ih =>
    intro entry offset d left h placed
    have entered : Consulting data { d with depth := d.depth + 1 } := ⟨h.captureLength_eq, h.within⟩
    have followed := askedWithin_follow (evolves_descend levels) ih
      (Reading.sound_read data entry offset) (Reading.placed_read data placed)
      (levelsLeft_enter left) entered
    exact .append (.cons trivial followed) (.cons trivial .nil)

end Dissector

/-! ## Captures -/

/-- Handlers that are tunnel handlers, or stay within the octets that they are asked about, are
asked about the capture only, and at an offset in it, unless a chain of extension headers ends
behind the capture: then the handlers of the IPv6 header are asked about the type of what should
follow. -/
theorem consultations_within (d : Dissector)
    (handlers : ∀ registry, d.registry = some registry → ∀ entry ∈ registry.entries,
      Tunnel.IsHandler entry.2 ∨ entry.2.StaysWithin)
    (buffer : Octets) {captureLength wireLength : Nat} (timestamp : UInt64)
    (held : captureLength ≤ buffer.size) (wired : captureLength ≤ wireLength) :
    ∃ traced, d.dissect buffer captureLength wireLength timestamp = .ok traced ∧
      ∀ slot call, .asked slot call ∈ traced.2 →
        call.data = buffer.extract 0 captureLength ∧
          (call.offset ≤ captureLength ∨
            call.id = .ipv6 ∧ (∃ value, call.inquiry = .nextHeader value) ∧
              Chain.Overrun call.data call.offset) := by
  have size : (buffer.extract 0 captureLength).size = captureLength := by
    rw [Array.size_extract]
    omega
  have begun : (d.started captureLength wireLength timestamp).Consulting
      (buffer.extract 0 captureLength) :=
    ⟨size.symm, fun registry found entry member =>
      (handlers registry found entry member).elim Tunnel.IsHandler.staysWithin id⟩
  have followed := Dissector.askedWithin_follow (Dissector.evolves_descend _)
    (Dissector.askedWithin_descend _ _) (Dissector.sound_readLink d.config.link _)
    (Dissector.placed_readLink d.config.link _) rfl begun
  rw [Dissector.dissect_eq, if_neg (by omega), if_neg (by omega)]
  refine ⟨_, rfl, fun slot call asked => ?_⟩
  obtain ⟨here, placed⟩ := Outcome.askedWithin_closed followed _ _ asked
  unfold Inquiry.Placed at placed
  rw [size, ← here] at placed
  exact ⟨here, placed⟩

/-- A VXLAN packet that ends with its VXLAN header. -/
theorem consultations_within_vxlan :
    let buffer : Octets :=
      #[2, 0, 0, 0, 0, 1, 2, 0, 0, 0, 0, 2, 0x08, 0x00, 0x45, 0, 0, 36, 0, 0, 0, 0, 64, 17, 0, 0,
        10, 0, 0, 1, 10, 0, 0, 2, 0x12, 0xb5, 0x12, 0xb5, 0, 16, 0, 0, 8, 0, 0, 0, 0, 0, 1, 0]
    let registry : Registry := ⟨Tunnel.handlers, by decide⟩
    let d : Dissector := { registry := some registry }
    50 ≤ buffer.size ∧ 50 ≤ 60 ∧
      ∃ traced, d.dissect buffer 50 60 0 = .ok traced ∧
        .asked 0 ⟨buffer, 42, .udp, .ports 0x12b5 0x12b5⟩ ∈ traced.2 ∧
        ∀ slot call, .asked slot call ∈ traced.2 →
          call.data = buffer.extract 0 50 ∧
            (call.offset ≤ 50 ∨ call.id = .ipv6 ∧ (∃ value, call.inquiry = .nextHeader value) ∧
              Chain.Overrun call.data call.offset) := by
  intro buffer registry d
  have tunnels : ∀ found, d.registry = some found → ∀ entry ∈ found.entries,
      Tunnel.IsHandler entry.2 ∨ entry.2.StaysWithin := by
    rintro found ⟨⟩ entry member
    exact .inl (Tunnel.isHandler_of_mem_handlers member)
  have held : 50 ≤ buffer.size := by decide
  obtain ⟨traced, dissected, within⟩ :=
    consultations_within d tunnels buffer 0 held (by decide : 50 ≤ 60)
  have told : (d.dissect buffer 50 60 0).toOption.map
      (fun traced => decide (.asked 0 ⟨buffer, 42, .udp, .ports 0x12b5 0x12b5⟩ ∈ traced.2)) =
        some true := by
    decide +kernel
  rw [dissected] at told
  exact ⟨held, by decide, traced, dissected, of_decide_eq_true (Option.some.inj told), within⟩

/-- The hop-by-hop options of this capture are cut off behind their first two octets, which tell a
length of eight. The handlers of the IPv6 header are asked about the payload at an offset where
nothing was captured. -/
theorem asked_behind_capture :
    let buffer : Octets :=
      #[0x60, 0, 0, 0, 0, 2, 0, 64, 0xfe, 0x80, 0, 0, 0, 0, 0, 0, 0, 0, 0, 0, 0, 0, 0, 1,
        0xfe, 0x80, 0, 0, 0, 0, 0, 0, 0, 0, 0, 0, 0, 0, 0, 2, 0x32, 0]
    let registry : Registry := ⟨[(.ipv6, Tunnel.esp)], by decide⟩
    let d : Dissector := { config := { link := .rawIp }, registry := some registry }
    ∃ traced, d.reset.dissect buffer 42 42 0 = .ok traced ∧
      .asked 0 ⟨buffer, 48, .ipv6, .nextHeader 50⟩ ∈ traced.2 ∧ buffer.size < 48 := by
  intro buffer registry d
  have told : (d.reset.dissect buffer 42 42 0).toOption.map
      (fun traced => decide (.asked 0 ⟨buffer, 48, .ipv6, .nextHeader 50⟩ ∈ traced.2)) =
        some true := by
    decide +kernel
  obtain ⟨traced, dissected, asked⟩ := ok_of_map_toOption told
  exact ⟨traced, dissected, of_decide_eq_true asked, by decide⟩

end FrameSpans
