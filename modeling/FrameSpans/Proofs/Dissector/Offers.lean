import FrameSpans.Proofs.Dissector.Carried
import FrameSpans.Proofs.Dissector.Steps
import FrameSpans.Proofs.Dissector.Walk
import FrameSpans.Proofs.Reading.Sizes
import FrameSpans.Proofs.Tunnel

/-!
# Which spans are offered

Spans are offered to the table by the steps of readings and by handlers, and each of them leaves an
event, whether it is recorded or refused (`Event.Offers`). What is in the table was offered before
(`Evolves.forall_spans`). So a property of spans holds of all that a dissection offers if it holds of what readings of the capture offer (`Step.Offers`) and of what
handlers that are asked about the capture offer (`Handler.Offers`). The proof follows the walk, with
the capture fixed: encapsulated packets and handlers are given its octets and no others.

With tunnel handlers, all spans that are offered are those of short headers and of headers whose
lengths are sums (`Dissector.sized_dissectCapture`).
-/

namespace FrameSpans

/-- The span that the event is about, if it is about one that was offered, has a property. -/
def Event.Offers (P : Span → Prop) : Event → Prop
  | .stored span | .widened _ span | .refused span _ => P span
  | _ => True

/-! ## Spans that are recorded -/

/-- What an event makes of spans with a property, if it offers one with that property. -/
theorem Event.forall_replay {P : Span → Prop} {event : Event} (offered : event.Offers P)
    {spans : List Span} (before : ∀ span ∈ spans, P span) :
    ∀ span ∈ event.replay spans, P span := by
  cases event with
  | stored span => exact List.forall_mem_append.mpr ⟨before, List.forall_mem_singleton.mpr offered⟩
  | widened index span =>
    intro other member
    rcases List.mem_or_eq_of_mem_set member with kept | rfl
    · exact before other kept
    · exact offered
  | _ => exact before

/-- The table holds spans with a property if it held such spans before and such spans are
offered. -/
theorem Evolves.forall_spans {P : Span → Prop} {d d' : Dissector} {events : List Event}
    (h : Evolves d events d') (offered : ∀ event ∈ events, event.Offers P)
    (before : ∀ span ∈ d.spans, P span) : ∀ span ∈ d'.spans, P span := by
  rw [h.spans_eq_replay]
  exact List.foldlRecOn (motive := fun spans => ∀ span ∈ spans, P span) events Event.replay before
    fun spans held event member => Event.forall_replay (offered event member) held

/-! ## Handlers -/

/-- A program that offers only spans with a property, and dissects encapsulated packets only in the
given octets. -/
def Program.Offers (data : Octets) (P : Span → Prop) : Program → Prop
  | .done | .fault => True
  | .note _ next => next.Offers data P
  | .captureLength next => ∀ length, (next length).Offers data P
  | .addSpan span next => P span ∧ ∀ accepted, (next accepted).Offers data P
  | .dissect _ octets _ next => octets = data ∧ next.Offers data P

/-- A program that goes on with what was read offers what the rest of it offers. -/
theorem Program.Offers.ofRead {α : Type} {data : Octets} {P : Span → Prop} {result : Except Stop α}
    {next : α → Program} (rest : ∀ value, (next value).Offers data P) :
    (Program.ofRead result next).Offers data P := by
  cases result with
  | ok value => exact rest value
  | error stop => cases stop <;> trivial

/-- A handler that answers with such programs where it is asked about the given octets. -/
def Handler.Offers (data : Octets) (P : Span → Prop) (handler : Handler) : Prop :=
  ∀ call : Consultation, call.data = data → (handler call).Offers data P

namespace Tunnel

variable {data : Octets} {P : Span → Prop}
  (short : ∀ span : Span, span.Short → P span)

include short

/-- The ESP handler offers the readable part of a packet. -/
theorem offers_recordEsp (offset : Nat) : (recordEsp data offset).Offers data P := by
  refine .ofRead fun header => ?_
  split
  · trivial
  · have size : 0 < EspHeader.size ∧ EspHeader.size ≤ overhang := by decide
    exact ⟨short _ size, fun _ => trivial⟩

/-- Tunnel handlers offer short headers only. -/
theorem IsHandler.offers {handler : Handler} (h : IsHandler handler) : handler.Offers data P := by
  rintro call rfl
  -- Behind its header a handler offers nothing more, it only has the packet dissected.
  have packet (length : Nat) (inner : Encapsulation) (accepted : Bool) :
      (if accepted then
        Program.ofRead (advance call.offset length) fun behind =>
          .dissect inner call.data behind .done
      else .done : Program).Offers call.data P := by
    split
    · exact .ofRead fun behind => ⟨rfl, trivial⟩
    · trivial
  cases h with
  | vxlan port =>
    unfold Tunnel.vxlan
    split
    · trivial
    · split
      · trivial
      · refine .ofRead fun header => ?_
        split
        · trivial
        · have size : 0 < VxlanHeader.size ∧ VxlanHeader.size ≤ overhang := by decide
          exact ⟨short _ size, packet _ _⟩
  | geneve port =>
    unfold Tunnel.geneve
    split
    · trivial
    · split
      · trivial
      · refine .ofRead fun header => ?_
        split
        · trivial
        · have pos : 0 < header.headerLength := Nat.add_pos_left (by decide) _
          exact ⟨short _ ⟨pos, header.headerLength_le⟩, packet _ _⟩
  | esp =>
    unfold Tunnel.esp
    split <;> split
    · exact offers_recordEsp short call.offset
    · trivial
    · exact offers_recordEsp short call.offset
    · trivial

end Tunnel

/-! ## Steps -/

namespace Dissector

variable {P : Span → Prop}

/-- What marks offer. -/
theorem offers_takeMarks (d : Dissector) {marks : List Mark}
    (offered : ∀ mark ∈ marks, mark.Offers P) :
    ∀ event ∈ (d.takeMarks marks).2, event.Offers P :=
  d.forall_events_takeMarks
    (fun _ found => ⟨offered _ found, fun _ => offered _ found⟩) fun _ => trivial

/-- What a header with its chain offers: the header, the marks, and the sum of it and the chain. -/
theorem offers_takeChained (d : Dissector) {base : Span} {marks : List Mark} {length : Nat}
    (offered : Step.Offers P (.chained base marks length)) :
    ∀ event ∈ (d.takeChained base marks length).2, event.Offers P := by
  obtain ⟨first, others, whole⟩ := offered
  unfold takeChained
  split
  · exact List.forall_mem_cons.mpr ⟨first, d.offers_takeMarks others⟩
  · next recorded _ =>
    refine List.forall_mem_append.mpr
      ⟨List.forall_mem_cons.mpr ⟨first, recorded.offers_takeMarks others⟩, ?_⟩
    split
    · nofun
    · next chained =>
      -- The event tells the wider span, whether or not it takes the place of the header.
      rcases events_updateSpan _ _ _ with widened | ⟨reason, refused⟩
      · rw [widened]
        exact List.forall_mem_singleton.mpr (whole chained)
      · rw [refused]
        exact List.forall_mem_singleton.mpr (whole chained)

/-- What a step offers. -/
theorem offers_take (d : Dissector) {step : Step} (offered : step.Offers P) :
    ∀ event ∈ (d.take step).2, event.Offers P := by
  cases step with
  | header span => exact d.forall_events_addSpan ⟨offered, fun _ => offered⟩
  | mark mark =>
    have alone : (d.take (.mark mark)).2 = (d.takeMarks [mark]).2 := (List.append_nil _).symm
    rw [alone]
    exact d.offers_takeMarks (List.forall_mem_singleton.mpr offered)
  | chained base marks length => exact d.offers_takeChained offered
  | framing => nofun
  | payload | remark => exact List.forall_mem_singleton.mpr trivial

end Dissector

/-- What is offered is offered whether or not reading stopped. -/
theorem Outcome.offers_closed {P : Span → Prop} {outcome : Outcome}
    (h : ∀ event ∈ outcome.events, event.Offers P) (branch : Branch) :
    ∀ event ∈ (outcome.closed branch).2, event.Offers P := by
  unfold closed
  split
  · exact h
  · exact List.forall_mem_append.mpr ⟨h, List.forall_mem_singleton.mpr trivial⟩

/-! ## The walk -/

/-- The dissector of a capture whose handlers offer only spans with a property. -/
structure Dissector.Offering (data : Octets) (P : Span → Prop) (d : Dissector) : Prop where
  /-- The octets are the capture. -/
  captureLength_eq : d.captureLength = data.size
  /-- Every handler offers such spans. -/
  offers : ∀ registry, d.registry = some registry →
    ∀ entry ∈ registry.entries, entry.2.Offers data P

/-- A walk keeps the capture and the handlers. -/
theorem Dissector.carried_offering (data : Octets) (P : Span → Prop) :
    Carried fun d d' => d.Offering data P → d'.Offering data P where
  refl d := id
  trans first second h := second (first h)
  offer offered h := by
    obtain ⟨-, -, word, -, rfl⟩ := of_offer offered
    exact ⟨h.captureLength_eq, h.offers⟩
  fragment d isLast h := ⟨h.captureLength_eq, h.offers⟩
  framing d type h := by
    unfold setFraming
    split
    · exact ⟨h.captureLength_eq, h.offers⟩
    · exact h
  widen _ marked exchanged h := by
    obtain ⟨-, -, word, -, rfl⟩ := of_widen exchanged
    exact ⟨(marked h).captureLength_eq, (marked h).offers⟩
  nested inner h :=
    have inside := inner ⟨h.captureLength_eq, h.offers⟩
    ⟨inside.captureLength_eq, inside.offers⟩

/-- Descending into the capture offers only spans with a property. -/
def Descent.Offering (data : Octets) (P : Span → Prop) (deeper : Descent) : Prop :=
  ∀ (entry : Entry) (offset : Nat) (d : Dissector), d.Offering data P →
    ∀ event ∈ (deeper entry data offset d).events, event.Offers P

section Walk

variable {data : Octets} {P : Span → Prop} {deeper : Descent}
  (carries : deeper.Carries fun d d' => d.Offering data P → d'.Offering data P)
  (inside : deeper.Offering data P)

include inside

/-- What the dissection of an encapsulated packet offers that a handler asked for. -/
theorem Dissector.offers_reenter {d : Dissector} (h : d.Offering data P) (inner : Encapsulation)
    (offset : Nat) : ∀ event ∈ (d.reenter deeper inner data offset).2, event.Offers P := by
  -- The octets are no longer than the capture, so all of them are handed on.
  rw [reenter_eq_closed, h.captureLength_eq, Octets.upTo_size]
  exact Outcome.offers_closed (inside inner.entry offset d h) _

include carries

/-- What the requests of a handler offer. -/
theorem Program.offers_run (program : Program) (offered : program.Offers data P) {d : Dissector}
    (h : d.Offering data P) : ∀ event ∈ (program.run deeper d).2, event.Offers P := by
  have granted := (Dissector.carried_offering data P).toGranted
  induction program generalizing d with
  | done => nofun
  | fault => exact List.forall_mem_singleton.mpr trivial
  | note text next ih => exact List.forall_mem_cons.mpr ⟨trivial, ih offered h⟩
  | captureLength next ih => exact ih d.captureLength (offered d.captureLength) h
  | addSpan span next ih =>
    obtain ⟨here, rest⟩ := offered
    unfold run
    split
    · next recorded accepted =>
      exact List.forall_mem_cons.mpr ⟨here, ih true (rest true) (granted.offer accepted h)⟩
    · exact List.forall_mem_cons.mpr ⟨here, ih false (rest false) h⟩
  | dissect inner octets offset next ih =>
    obtain ⟨rfl, rest⟩ := offered
    have kept := Dissector.Granted.reenter carries d inner octets offset h
    exact List.forall_mem_append.mpr
      ⟨Dissector.offers_reenter inside h inner offset, ih rest kept⟩

namespace Dissector

/-- What handlers offer that are asked one after the other. -/
theorem offers_askAll {call : Consultation} (here : call.data = data)
    {handlers : List (Nat × Handler)} (offered : ∀ entry ∈ handlers, entry.2.Offers data P)
    {d : Dissector} (h : d.Offering data P) :
    ∀ event ∈ (askAll deeper call handlers d).2, event.Offers P := by
  induction handlers generalizing d with
  | nil => nofun
  | cons entry rest ih =>
    obtain ⟨slot, handler⟩ := entry
    obtain ⟨first, others⟩ := List.forall_mem_cons.mp offered
    have ran := (handler call).offers_run carries inside (first call here) h
    have kept := (carried_offering data P).toGranted.run carries (handler call) d h
    exact List.forall_mem_cons.mpr ⟨trivial, List.forall_mem_append.mpr ⟨ran, ih others kept⟩⟩

/-- What the handlers of a registry offer. -/
theorem offers_consult {call : Consultation} (here : call.data = data) {d : Dissector}
    (h : d.Offering data P) : ∀ event ∈ (consult deeper call d).2, event.Offers P := by
  unfold consult
  split
  · next registry found =>
    exact offers_askAll carries inside here
      (fun entry member => h.offers registry found _ (Registry.mem_of_mem_handlers member)) h
  · exact List.forall_mem_singleton.mpr trivial
  · nofun

/-- What is offered when a reading is followed. -/
theorem offers_follow {reading : Reading} (offered : reading.Only (Step.Offers P)) {d : Dissector}
    (h : d.Offering data P) : ∀ event ∈ (follow deeper data reading d).events, event.Offers P := by
  have steps : ∀ event ∈ (d.takeAll reading.steps).2, event.Offers P :=
    d.forall_events_takeAll fun step member d => d.offers_take (offered step member)
  have kept := (carried_offering data P).takeAll d reading.steps h
  unfold follow
  dsimp only
  split
  · exact steps
  · exact steps
  · next entry offset _ => exact List.forall_mem_append.mpr ⟨steps, inside entry offset _ kept⟩
  · exact List.forall_mem_append.mpr ⟨steps, offers_consult carries inside rfl kept⟩

end Dissector

end Walk

namespace Dissector

section Captures

variable {data : Octets} {P : Span → Prop}
  (reads : ∀ entry offset, (Reading.read entry data offset).Only (Step.Offers P))

include reads

/-- What encapsulated packets offer, however many levels are left. -/
theorem offering_descend (levels : Nat) : Descent.Offering data P (descend levels) := by
  -- Induction on the levels that are left: a level is followed with one level less.
  induction levels with
  | zero => exact fun entry offset d _ => List.forall_mem_singleton.mpr trivial
  | succ levels ih =>
    intro entry offset d h
    have entered : Offering data P { d with depth := d.depth + 1 } :=
      ⟨h.captureLength_eq, h.offers⟩
    have followed := offers_follow ((carried_offering data P).descend levels) ih
      (reads entry offset) entered
    exact List.forall_mem_append.mpr
      ⟨List.forall_mem_cons.mpr ⟨trivial, followed⟩, List.forall_mem_singleton.mpr trivial⟩

/-- What a capture offers. -/
theorem offers_dissectCapture {d : Dissector} (h : d.Offering data P) :
    ∀ event ∈ (d.dissectCapture data).events, event.Offers P := by
  have outermost : (readLink d.config.link data).Only (Step.Offers P) := by
    cases d.config.link with
    | ethernet => exact reads .ethernet 0
    | rawIp => exact .after_one trivial (reads .ip 0)
  exact offers_follow ((carried_offering data P).descend _) (offering_descend reads _) outermost h

end Captures

/-- Tunnel handlers and the readings of a capture offer short spans, and those of headers whose
lengths are sums. -/
theorem sized_dissectCapture {d : Dissector} {data : Octets}
    (captured : d.captureLength = data.size)
    (tunnels : ∀ registry, d.registry = some registry →
      ∀ entry ∈ registry.entries, Tunnel.IsHandler entry.2) :
    ∀ event ∈ (d.dissectCapture data).events, event.Offers (Span.Sized data) := by
  have offering : d.Offering data (Span.Sized data) :=
    ⟨captured, fun registry found entry member =>
      (tunnels registry found entry member).offers fun _ => .inl⟩
  exact offers_dissectCapture (fun entry offset => Reading.sized_read data offset entry) offering

end Dissector

end FrameSpans
