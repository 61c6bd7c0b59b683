import FrameSpans.Proofs.Dissector.Offers
import FrameSpans.Proofs.Dissector.Succession
import FrameSpans.Proofs.Reading.Order
import FrameSpans.Proofs.Tunnel

/-!
# Which headers of tunnels overlap

With the tunnel handlers registered, headers that are recorded do not overlap, with one exception.
All handlers that are registered for UDP are asked about each datagram, one after the other. VXLAN
and Geneve go by the destination port and ESP goes by either port, so a datagram from the port of ESP
to that of VXLAN or Geneve may be claimed twice (`Span.Contested`,
`Dissector.payload_claimed_twice`): the eight octets of ESP are then the first ones of the tunnel
header, and end in front of all that is recorded behind it. `Dissector.headers_apart` tells that no
other headers overlap, and since none is empty (`Dissector.filled_dissectCapture`), that no two
others start at one position.

The proof follows the walk. `Dissector.Orderly` says of a state of the walk that all headers end in
front of the position that was reached, and `Dissector.Reaches` says of the headers that come behind
this state that they stand behind that position. The state is kept from header to header, and lost
only in the payload of UDP, of which ESP is the last to be asked. What it finds there is a tunnel
header with others behind it (`Dissector.Claims`).
-/

namespace FrameSpans

/-- The handlers of all tunnels on their assigned ports. -/
def Tunnel.registry : Registry :=
  (Registry.empty.registerAll handlers).1

/-! ## Spans apart -/

namespace Span

/-- A UDP header from the port of ESP to that of the tunnel whose headers have the given id. -/
def Contested (data : Octets) (tunnel : ProtocolId) (udp : Span) : Prop :=
  udp.id = .udp ∧ data.word16? udp.offset = some Tunnel.natTraversalPort ∧
    (tunnel = Tunnel.vxlanId ∧ data.word16? (udp.offset + 2) = some Tunnel.vxlanPort ∨
      tunnel = Tunnel.geneveId ∧ data.word16? (udp.offset + 2) = some Tunnel.genevePort)

/-- An ESP header of eight octets at the start of a payload that the tunnel with the given id may
claim as well. -/
def Shares (data : Octets) (headers : List Span) (tunnel : ProtocolId) (span : Span) : Prop :=
  ∃ udp ∈ headers, udp.Contested data tunnel ∧
    span = ⟨Tunnel.espId, udp.offset + udp.length, EspHeader.size⟩

/-- The first span ends in front of the second one. Where the second one shares a payload, it may end
in front of the first one instead, or start with it if that is the header of the tunnel. -/
def Apart (data : Octets) (headers : List Span) (front rear : Span) : Prop :=
  front.offset + front.length ≤ rear.offset ∨
    ∃ tunnel, rear.Shares data headers tunnel ∧
      (rear.offset + rear.length ≤ front.offset ∨
        front.id = tunnel ∧ front.offset = rear.offset)

/-- Of all headers, each one is apart from those that were recorded before it. -/
def AllApart (data : Octets) (headers : List Span) : Prop :=
  headers.Pairwise (Apart data headers)

variable {data : Octets} {headers more : List Span}

/-- Spans stay apart when more headers are known. -/
theorem Apart.mono {front rear : Span} (h : Apart data headers front rear)
    (known : headers ⊆ more) : Apart data more front rear := by
  refine h.imp_right fun ⟨tunnel, ⟨udp, member, contested⟩, place⟩ => ?_
  exact ⟨tunnel, ⟨udp, known member, contested⟩, place⟩

/-- Of two spans that are apart and start at one position, the second one shares a payload with the
first one, unless the first one is empty. -/
theorem Apart.shares {front rear : Span} (h : Apart data headers front rear)
    (filled : 0 < front.length) (same : front.offset = rear.offset) :
    rear.Shares data headers front.id := by
  rcases h with behind | ⟨tunnel, shared, before | ⟨here, -⟩⟩
  · omega
  · obtain ⟨udp, -, -, rfl⟩ := shared
    have size : EspHeader.size = 8 := rfl
    dsimp only at before same
    omega
  · exact here ▸ shared

/-- One more header that is apart from all that were recorded before it. -/
theorem AllApart.snoc (h : AllApart data headers) {span : Span}
    (last : ∀ front ∈ headers, Apart data headers front span) :
    AllApart data (headers ++ [span]) := by
  have known : headers ⊆ headers ++ [span] := List.subset_append_left _ _
  refine List.pairwise_append.mpr ⟨h.imp fun apart => apart.mono known, List.pairwise_singleton _ _,
    fun front member rear only => ?_⟩
  rw [List.mem_singleton.mp only]
  exact (last front member).mono known

end Span

/-! ## Headers that are recorded -/

namespace Dissector

variable {data : Octets} {offset length : Nat} {id : ProtocolId} {d d' d₁ d₂ : Dissector}

/-- A header that is accepted is the last one. -/
theorem headers_of_offer {span : Span} (header : span.id.kind = .protocol)
    (offered : d.offer span = .ok d') : d'.headers = d.headers ++ [span] :=
  headers_of_cons header (spans_of_offer offered) nofun

/-- A step that finds no header leaves the headers alone. -/
theorem headers_take_passed (d : Dissector) {step : Step} (passed : step.Passed)
    (classed : step.Classed) : (d.take step).1.headers = d.headers := by
  cases step with
  | header | chained => exact passed.elim
  | mark mark => exact d.headers_takeMarks (List.forall_mem_singleton.mpr classed)
  | framing type =>
    show (d.setFraming type).headers = d.headers
    rw [headers, Evolves.spans_setFraming]
    rfl
  | payload | remark => rfl

/-- A header with its chain is recorded with or without the chain, or it is refused. -/
theorem headers_takeChained (d : Dissector) (header : id.kind = .protocol) {marks : List Mark}
    (classed : ∀ mark ∈ marks, mark.Classed) (more : Nat) :
    (d.takeChained ⟨id, offset, length⟩ marks more).1.headers = d.headers ∨
      ∃ covered ≤ length + more,
        (d.takeChained ⟨id, offset, length⟩ marks more).1.headers =
          d.headers ++ [⟨id, offset, covered⟩] := by
  unfold takeChained
  cases offered : d.offer ⟨id, offset, length⟩ with
  | error reason => exact .inl (d.headers_takeMarks classed)
  | ok recorded =>
    obtain ⟨taken, spans, found⟩ := recorded.spans_takeMarks classed
    rw [spans_of_offer offered, List.append_assoc, List.singleton_append] at spans
    have others : ∀ span ∈ taken, (Mark.option span).Classed :=
      fun span member => (found span member).2
    have narrow : (recorded.takeMarks marks).1.headers = d.headers ++ [⟨id, offset, length⟩] :=
      headers_of_cons header spans others
    right
    dsimp only
    by_cases empty : more = 0
    · rw [if_pos empty]
      exact ⟨length, Nat.le_add_right _ _, narrow⟩
    · rw [if_neg empty, updateSpan]
      cases widened : (recorded.takeMarks marks).1.widen d.recordCount
          ⟨id, offset, length + more⟩ with
      | error reason => exact ⟨length, Nat.le_add_right _ _, narrow⟩
      | ok whole =>
        have exchanged := spans_of_widen widened
        rw [spans, ← d.length_spans, Span.set_length_append] at exchanged
        exact ⟨length + more, Nat.le_refl _, headers_of_cons header exchanged others⟩

/-! ## States of the walk -/

/-- A dissector that has come to `offset` of a capture. It asks the handlers of tunnels, its headers
are apart, and all of them end in front of that position. -/
structure Orderly (data : Octets) (offset : Nat) (d : Dissector) : Prop where
  /-- The handlers are those of tunnels. -/
  registry_eq : d.registry = some Tunnel.registry
  /-- The capture is that. -/
  captureLength_eq : d.captureLength = data.size
  /-- The headers are apart. -/
  apart : Span.AllApart data d.headers
  /-- The headers end here. -/
  ended : ∀ span ∈ d.headers, span.offset + span.length ≤ offset

/-- The headers of the second dissector are apart, and those that the first one does not have stand
behind `offset`. -/
structure Reaches (data : Octets) (offset : Nat) (d d' : Dissector) : Prop where
  /-- The headers are apart. -/
  apart : Span.AllApart data d'.headers
  /-- The other ones stand behind the position. -/
  added : ∃ more, d'.headers = d.headers ++ more ∧ ∀ span ∈ more, offset ≤ span.offset

/-- What comes behind a later position comes behind an earlier one. -/
theorem Reaches.trans {behind : Nat} (first : Reaches data offset d d₁)
    (second : Reaches data behind d₁ d₂) (le : offset ≤ behind) : Reaches data offset d d₂ := by
  obtain ⟨more, early, place⟩ := first.added
  obtain ⟨rest, late, place'⟩ := second.added
  refine ⟨second.apart, more ++ rest, by rw [late, early, List.append_assoc], ?_⟩
  intro span member
  rcases List.mem_append.mp member with earlier | later
  · exact place span earlier
  · exact Nat.le_trans le (place' span later)

/-- The headers of the second dissector are apart. If there are any that the first one does not have,
the first of them stands at `offset`, is no shorter than an ESP header and has the given id, and the
others stand behind it. -/
structure Claims (data : Octets) (offset : Nat) (id : ProtocolId) (d d' : Dissector) : Prop where
  /-- The headers are apart. -/
  apart : Span.AllApart data d'.headers
  /-- A header of the id comes in front of all others. -/
  added : d'.headers = d.headers ∨
    ∃ length more, EspHeader.size ≤ length ∧ d'.headers = d.headers ++ ⟨id, offset, length⟩ :: more ∧
      ∀ span ∈ more, offset + length ≤ span.offset

/-- What was claimed stands behind the position. -/
theorem Claims.reaches (h : Claims data offset id d d') : Reaches data offset d d' := by
  refine ⟨h.apart, ?_⟩
  rcases h.added with same | ⟨length, more, -, grown, place⟩
  · exact ⟨[], by rw [same, List.append_nil], nofun⟩
  · refine ⟨_, grown, List.forall_mem_cons.mpr ⟨Nat.le_refl _, fun span member => ?_⟩⟩
    exact Nat.le_trans (Nat.le_add_right _ _) (place span member)

namespace Orderly

/-- A change that records no header. -/
theorem still (h : d.Orderly data offset) (same : d'.headers = d.headers) :
    Reaches data offset d d' := by
  refine ⟨?_, [], by rw [same, List.append_nil], nofun⟩
  rw [same]
  exact h.apart

/-- The state does not depend on what a dissection leaves as it is. -/
theorem evolve {events : List Event} {behind : Nat} (h : d.Orderly data offset)
    (later : Evolves d events d') (same : d'.headers = d.headers) (le : offset ≤ behind) :
    d'.Orderly data behind where
  registry_eq := later.keeps.registry_eq.trans h.registry_eq
  captureLength_eq := later.keeps.captureLength_eq.trans h.captureLength_eq
  apart := (h.still same).apart
  ended span member := Nat.le_trans (h.ended span (same ▸ member)) le

/-- A change that records one header at the position that was reached, or none. -/
theorem grow {events : List Event} (h : d.Orderly data offset) (later : Evolves d events d')
    (grown : d'.headers = d.headers ∨
      ∃ covered ≤ length, d'.headers = d.headers ++ [⟨id, offset, covered⟩]) :
    d'.Orderly data (offset + length) ∧ Reaches data offset d d' := by
  rcases grown with same | ⟨covered, within, more⟩
  · exact ⟨h.evolve later same (Nat.le_add_right _ _), h.still same⟩
  · have apart : Span.AllApart data d'.headers := by
      rw [more]
      exact h.apart.snoc fun front member => .inl (h.ended front member)
    refine ⟨⟨later.keeps.registry_eq.trans h.registry_eq,
      later.keeps.captureLength_eq.trans h.captureLength_eq, apart, fun span member => ?_⟩,
      apart, _, more, ?_⟩
    · rw [more, List.mem_append, List.mem_singleton] at member
      rcases member with early | rfl
      · exact Nat.le_add_right_of_le (h.ended span early)
      · exact Nat.add_le_add_left within offset
    · exact List.forall_mem_singleton.mpr (Nat.le_refl offset)

/-- Recording a header. -/
theorem store (h : d.Orderly data offset) (header : id.kind = .protocol)
    (offered : d.offer ⟨id, offset, length⟩ = .ok d') :
    d'.Orderly data (offset + length) ∧ Reaches data offset d d' :=
  h.grow (.store offered) (.inr ⟨length, Nat.le_refl _, headers_of_offer header offered⟩)

/-- Offering a header. -/
theorem addSpan (h : d.Orderly data offset) (header : id.kind = .protocol) :
    (d.addSpan ⟨id, offset, length⟩).1.Orderly data (offset + length) ∧
      Reaches data offset d (d.addSpan ⟨id, offset, length⟩).1 := by
  unfold Dissector.addSpan
  cases offered : d.offer ⟨id, offset, length⟩ with
  | ok recorded => exact h.store header offered
  | error reason => exact ⟨h.evolve (.nothing d) rfl (Nat.le_add_right _ _), h.still rfl⟩

/-- A step that finds no header. -/
theorem take_passed (h : d.Orderly data offset) {step : Step} (passed : step.Passed)
    (classed : step.Classed) :
    (d.take step).1.Orderly data offset ∧ Reaches data offset d (d.take step).1 := by
  have same := d.headers_take_passed passed classed
  refine ⟨?_, h.still same⟩
  cases step with
  | header | chained => exact passed.elim
  | mark mark => exact h.evolve (d.evolves_takeMark mark) same (Nat.le_refl _)
  | framing type =>
    show (d.setFraming type).Orderly data offset
    unfold setFraming
    split
    · exact ⟨h.registry_eq, h.captureLength_eq, h.apart, h.ended⟩
    · exact h
  | payload | remark => exact h

end Orderly

end Dissector

/-- Descending from a state of the walk leaves the headers apart. -/
def Descent.Ordering (data : Octets) (deeper : Descent) : Prop :=
  ∀ (entry : Entry) (offset : Nat) (d : Dissector), d.Orderly data offset →
    d.Reaches data offset (deeper entry data offset d).dissector

/-! ## Handlers -/

/-- Of the ids other than that of UDP, handlers of ESP are registered for some and no handlers for
all others. -/
theorem Tunnel.handlers_of_ne_udp {id : ProtocolId} (other : id ≠ .udp) :
    registry.handlers id = [] ∨ ∃ slot, registry.handlers id = [(slot, esp)] := by
  by_cases four : id = .ipv4
  · exact .inr ⟨2, by rw [four]; rfl⟩
  · by_cases six : id = .ipv6
    · exact .inr ⟨3, by rw [six]; rfl⟩
    · have unequal : ∀ entry ∈ handlers, entry.1 ≠ id := by
        intro entry member
        simp only [handlers, List.mem_cons, List.not_mem_nil, or_false] at member
        rcases member with rfl | rfl | rfl | rfl | rfl
        · exact Ne.symm other
        · exact Ne.symm other
        · exact Ne.symm four
        · exact Ne.symm six
        · exact Ne.symm other
      left
      refine List.filterMap_eq_nil_iff.mpr fun entry member => if_neg ?_
      exact unequal entry.1 (List.fst_mem_of_mem_zipIdx member)

namespace Dissector

section Handlers

variable {data : Octets} {id : ProtocolId} {d : Dissector} {deeper : Descent}
  (ordering : deeper.Ordering data) {call : Consultation} (here : call.data = data)

/-- What a tunnel handler offers behind a refused UDP header is refused as well. -/
theorem run_of_refused {program : Program} (answer : Tunnel.Answer call id program)
    (refused : ∀ id length, (d.offer ⟨id, call.offset, length⟩).isOk = false) :
    (program.run deeper d).1 = d := by
  cases answer with
  | done | fault => rfl
  | header =>
    have denied := refused id EspHeader.size
    unfold Program.run
    split
    · next recorded offered =>
      rw [offered] at denied
      cases denied
    · rfl
  | @packet leads length least inner =>
    have denied := refused id length
    unfold Program.run
    split
    · next recorded offered =>
      rw [offered] at denied
      cases denied
    · rfl

include ordering here

/-- What a tunnel handler does at the position that was reached. -/
theorem Orderly.run {program : Program} (answer : Tunnel.Answer call id program)
    (h : d.Orderly data call.offset) : Claims data call.offset id d (program.run deeper d).1 := by
  have nothing : Claims data call.offset id d d := ⟨h.apart, .inl rfl⟩
  cases answer with
  | done | fault => exact nothing
  | header encrypts =>
    subst encrypts
    unfold Program.run
    split
    · next recorded offered =>
      obtain ⟨-, stored⟩ := h.store rfl offered
      exact ⟨stored.apart, .inr ⟨_, [], Nat.le_refl _, headers_of_offer rfl offered, nofun⟩⟩
    · exact nothing
  | @packet leads length least inner =>
    unfold Program.run
    split
    · next recorded offered =>
      obtain ⟨ready, stored⟩ := h.store leads.kind_eq offered
      have first := headers_of_offer leads.kind_eq offered
      show Claims data call.offset id d ((Program.ofRead (advance call.offset length) fun behind =>
        .dissect inner call.data behind .done).run deeper recorded).1
      cases sum : advance call.offset length with
      | error stop => cases stop <;> exact ⟨stored.apart, .inr ⟨length, [], least, first, nofun⟩⟩
      | ok behind =>
        obtain rfl := eq_add_of_advance sum
        -- The packet is dissected from the end of the header on, so what it adds stands behind.
        have entered : Reaches data (call.offset + length) recorded
            (recorded.reenter deeper inner call.data (call.offset + length)).1 := by
          rw [reenter_eq_closed, Outcome.dissector_closed, here, ready.captureLength_eq,
            Octets.upTo_size]
          exact ordering inner.entry (call.offset + length) recorded ready
        obtain ⟨more, others, place⟩ := entered.added
        refine ⟨entered.apart, .inr ⟨length, more, least, ?_, place⟩⟩
        show (recorded.reenter deeper inner call.data (call.offset + length)).1.headers = _
        rw [others, first, List.append_assoc, List.singleton_append]
    · exact nothing

/-- What the handlers do that are registered for other headers than UDP. -/
theorem Orderly.consult (other : call.id ≠ .udp) (h : d.Orderly data call.offset) :
    Reaches data call.offset d (Dissector.consult deeper call d).1 := by
  unfold Dissector.consult
  rw [h.registry_eq]
  show Reaches data call.offset d (askAll deeper call (Tunnel.registry.handlers call.id) d).1
  rcases Tunnel.handlers_of_ne_udp other with none | ⟨slot, only⟩
  · rw [none]
    exact h.still rfl
  · rw [only]
    exact (Orderly.run ordering here (Tunnel.answer_esp call) h).reaches

end Handlers

/-! ## The payload of UDP -/

section Payload

variable {data : Octets} {d inside : Dissector} {deeper : Descent}

/-- The handler of ESP offers a header at the position it is asked about, or nothing. -/
theorem run_esp (deeper : Descent) (call : Consultation) (d : Dissector) :
    ((Tunnel.esp call).run deeper d).1 = d ∨
      d.offer ⟨Tunnel.espId, call.offset, EspHeader.size⟩ =
        .ok ((Tunnel.esp call).run deeper d).1 := by
  have answer := Tunnel.answer_esp call
  generalize Tunnel.esp call = program at answer ⊢
  cases answer with
  | done | fault => exact .inl rfl
  | header =>
    unfold Program.run
    split
    · next recorded offered => exact .inr offered
    · exact .inl rfl
  | packet leads => exact absurd leads (by decide)

/-- ESP is asked last. Where the payload is contested, its header is as long as the first octets of
what the tunnel claimed. -/
theorem Orderly.share {offset : Nat} {tunnel : ProtocolId} (h : d.Orderly data (offset + udpSize))
    (recorded : ⟨.udp, offset, udpSize⟩ ∈ d.headers)
    (contested : Span.Contested data tunnel ⟨.udp, offset, udpSize⟩)
    (claimed : Claims data (offset + udpSize) tunnel d inside) {call : Consultation}
    (here : call.offset = offset + udpSize) :
    Reaches data (offset + udpSize) d ((Tunnel.esp call).run deeper inside).1 := by
  have reached := claimed.reaches
  rcases run_esp deeper call inside with same | offered
  · rw [same]
    exact reached
  · rw [here] at offered
    obtain ⟨more, headers, place⟩ := reached.added
    have grown := headers_of_offer rfl offered
    have udp : ⟨.udp, offset, udpSize⟩ ∈ inside.headers := by
      rw [headers]
      exact List.mem_append_left more recorded
    have shares : Span.Shares data inside.headers tunnel
        ⟨Tunnel.espId, offset + udpSize, EspHeader.size⟩ := ⟨_, udp, contested, rfl⟩
    refine ⟨?_, more ++ [_], by rw [grown, headers, List.append_assoc], fun span member => ?_⟩
    · rw [grown]
      refine reached.apart.snoc fun front member => ?_
      rcases claimed.added with same | ⟨length, rest, least, claims, behind⟩
      · exact .inl (h.ended front (same ▸ member))
      · rw [claims, List.mem_append, List.mem_cons] at member
        rcases member with early | rfl | late
        · exact .inl (h.ended front early)
        · exact .inr ⟨tunnel, shares, .inr ⟨rfl, rfl⟩⟩
        · -- What stands behind the tunnel header stands behind that of ESP.
          exact .inr ⟨tunnel, shares,
            .inl (Nat.le_trans (Nat.add_le_add_left least _) (behind front late))⟩
    · rcases List.mem_append.mp member with early | last
      · exact place span early
      · rw [List.mem_singleton.mp last]

variable (ordering : deeper.Ordering data)

include ordering

/-- VXLAN and Geneve are asked one after the other, and at most one of them finds its port. -/
theorem Orderly.run_encapsulating {offset : Nat} (sender receiver : UInt16)
    (h : d.Orderly data offset) :
    let call : Consultation := ⟨data, offset, .udp, .ports sender receiver⟩
    let inside := ((Tunnel.geneve Tunnel.genevePort call).run deeper
      ((Tunnel.vxlan Tunnel.vxlanPort call).run deeper d).1).1
    inside = d ∨ ∃ tunnel,
      (tunnel = Tunnel.vxlanId ∧ receiver = Tunnel.vxlanPort ∨
        tunnel = Tunnel.geneveId ∧ receiver = Tunnel.genevePort) ∧
        Claims data offset tunnel d inside := by
  intro call inside
  have vxlan (other : receiver ≠ Tunnel.vxlanPort) :
      ((Tunnel.vxlan Tunnel.vxlanPort call).run deeper d).1 = d := by
    have done : Tunnel.vxlan Tunnel.vxlanPort call = .done := if_pos other
    rw [done]
    rfl
  have geneve (other : receiver ≠ Tunnel.genevePort) :
      inside = ((Tunnel.vxlan Tunnel.vxlanPort call).run deeper d).1 := by
    have done : Tunnel.geneve Tunnel.genevePort call = .done := if_pos other
    show ((Tunnel.geneve Tunnel.genevePort call).run deeper _).1 = _
    rw [done]
    rfl
  -- Both go by the destination port, and their ports differ.
  by_cases first : receiver = Tunnel.vxlanPort
  · have other : receiver ≠ Tunnel.genevePort := by
      rw [first]
      decide
    rw [geneve other]
    exact .inr ⟨_, .inl ⟨rfl, first⟩, h.run ordering rfl (Tunnel.answer_vxlan _ call)⟩
  · by_cases second : receiver = Tunnel.genevePort
    · have claimed := h.run ordering rfl (Tunnel.answer_geneve Tunnel.genevePort call)
      refine .inr ⟨_, .inr ⟨rfl, second⟩, ?_⟩
      show Claims data offset _ d ((Tunnel.geneve Tunnel.genevePort call).run deeper
        ((Tunnel.vxlan Tunnel.vxlanPort call).run deeper d).1).1
      rw [vxlan first]
      exact claimed
    · exact .inl ((geneve second).trans (vxlan first))

/-- What the handlers do that are registered for UDP, behind a UDP header that was recorded. -/
theorem Orderly.consult_udp {offset : Nat} {ports : Ports}
    (source : data.word16? offset = some ports.source)
    (destination : data.word16? (offset + 2) = some ports.destination)
    (h : d.Orderly data (offset + udpSize)) (recorded : ⟨.udp, offset, udpSize⟩ ∈ d.headers) :
    Reaches data (offset + udpSize) d (Dissector.consult deeper
      ⟨data, offset + udpSize, .udp, .ports ports.source ports.destination⟩ d).1 := by
  obtain ⟨sender, receiver⟩ := ports
  dsimp only at source destination ⊢
  let call : Consultation := ⟨data, offset + udpSize, .udp, .ports sender receiver⟩
  let inside := ((Tunnel.geneve Tunnel.genevePort call).run deeper
    ((Tunnel.vxlan Tunnel.vxlanPort call).run deeper d).1).1
  have asked : (Dissector.consult deeper call d).1 = ((Tunnel.esp call).run deeper inside).1 := by
    unfold Dissector.consult
    rw [h.registry_eq]
    rfl
  rw [asked]
  rcases h.run_encapsulating ordering sender receiver with same | ⟨tunnel, port, claimed⟩
  · show Reaches data _ d ((Tunnel.esp call).run deeper inside).1
    rw [show inside = d from same]
    exact (h.run ordering rfl (Tunnel.answer_esp call)).reaches
  · -- The destination port is that of a tunnel, so it is the source port that ESP may find.
    by_cases esp : sender = Tunnel.natTraversalPort
    · have contested : Span.Contested data tunnel ⟨.udp, offset, udpSize⟩ := by
        refine ⟨rfl, esp ▸ source, ?_⟩
        rcases port with ⟨vxlan, here⟩ | ⟨geneve, here⟩
        · exact .inl ⟨vxlan, here ▸ destination⟩
        · exact .inr ⟨geneve, here ▸ destination⟩
      exact h.share recorded contested claimed rfl
    · have other : receiver ≠ Tunnel.natTraversalPort := by
        rcases port with ⟨-, here⟩ | ⟨-, here⟩
        · rw [here]
          decide
        · rw [here]
          decide
      have unclaimed : Tunnel.esp call = .done := if_neg fun claim => claim.2.elim esp other
      rw [unclaimed]
      exact claimed.reaches

omit ordering in
/-- Behind a refused UDP header nothing is recorded. -/
theorem consult_of_refused {offset : Nat} {inquiry : Inquiry}
    (attached : d.registry = some Tunnel.registry) {reason : Refusal}
    (refused : d.offer ⟨.udp, offset, udpSize⟩ = .error reason) :
    (Dissector.consult deeper ⟨data, offset + udpSize, .udp, inquiry⟩ d).1 = d := by
  have denied (id : ProtocolId) (length : Nat) :
      (d.offer ⟨id, offset + udpSize, length⟩).isOk = false :=
    refuses_behind refused (show udpSize ≤ Span.maxLength by decide) (Nat.le_refl _)
  have answer {handler : Handler} (h : Tunnel.IsHandler handler) :
      ((handler ⟨data, offset + udpSize, .udp, inquiry⟩).run deeper d).1 = d := by
    obtain ⟨id, answered⟩ := h.answer ⟨data, offset + udpSize, .udp, inquiry⟩
    exact run_of_refused answered denied
  unfold Dissector.consult
  rw [attached]
  show ((Tunnel.esp _).run deeper ((Tunnel.geneve Tunnel.genevePort _).run deeper
    ((Tunnel.vxlan Tunnel.vxlanPort _).run deeper d).1).1).1 = d
  rw [answer (.vxlan _), answer (.geneve _), answer .esp]

end Payload

/-! ## The walk -/

variable {data : Octets} {offset : Nat} {d : Dissector}

/-- Following an ordered reading leaves the headers apart. -/
theorem Orderly.follow {deeper : Descent} (ordering : deeper.Ordering data) {reading : Reading}
    (ordered : Reading.Ordered data offset reading) (classed : reading.Classed)
    (h : d.Orderly data offset) :
    Reaches data offset d (follow deeper data reading d).dissector := by
  -- Induction on the headers that the reading goes through.
  induction ordered generalizing d with
  | complete | stopped => exact h.still rfl
  | encapsulated entry offset => exact ordering entry offset d h
  | @consult id other offset inquiry =>
    let call : Consultation := ⟨data, offset, id, inquiry⟩
    have here : call.data = data := rfl
    exact Orderly.consult ordering here other h
  | @udp offset ports source destination =>
    rw [follow_after]
    show Reaches data offset d (Dissector.consult deeper _ (d.addSpan ⟨.udp, offset, udpSize⟩).1).1
    unfold Dissector.addSpan
    cases offered : d.offer ⟨.udp, offset, udpSize⟩ with
    | ok recorded =>
      obtain ⟨ready, stored⟩ := h.store rfl offered
      have last : ⟨.udp, offset, udpSize⟩ ∈ recorded.headers := by
        rw [headers_of_offer rfl offered]
        exact List.mem_append_right _ List.mem_cons_self
      exact stored.trans (ready.consult_udp ordering source destination last)
        (Nat.le_add_right _ _)
    | error reason =>
      dsimp only
      rw [consult_of_refused h.registry_eq offered]
      exact h.still rfl
  | @header id offset length rest behind ih =>
    obtain ⟨here, others⟩ := (Reading.classed_after _ _).mp classed
    have header : id.kind = .protocol := here _ List.mem_cons_self
    obtain ⟨ready, added⟩ := h.addSpan header
    rw [follow_after]
    exact added.trans (ih others ready) (Nat.le_add_right _ _)
  | @chained id offset length more marks rest behind ih =>
    obtain ⟨here, others⟩ := (Reading.classed_after _ _).mp classed
    obtain ⟨header, marked⟩ := List.forall_mem_singleton.mp here
    obtain ⟨ready, added⟩ := h.grow (d.evolves_takeChained ⟨id, offset, length⟩ marks more)
      (d.headers_takeChained header marked more)
    rw [follow_after]
    exact added.trans (ih others ready) (Nat.le_add_right _ _)
  | @passed step offset rest other behind ih =>
    obtain ⟨here, others⟩ := (Reading.classed_after _ _).mp classed
    obtain ⟨ready, added⟩ := h.take_passed other (List.forall_mem_singleton.mp here)
    rw [follow_after]
    exact added.trans (ih others ready) (Nat.le_refl _)

/-- Entering encapsulated packets leaves the headers apart, however many levels are left. -/
theorem ordering_descend (levels : Nat) : Descent.Ordering data (descend levels) := by
  -- Induction on the levels that are left, as for `evolves_descend`.
  induction levels with
  | zero => exact fun entry offset d h => h.still rfl
  | succ levels ih =>
    intro entry offset d h
    have entered : Orderly data offset { d with depth := d.depth + 1 } :=
      ⟨h.registry_eq, h.captureLength_eq, h.apart, h.ended⟩
    have followed := entered.follow ih (Reading.ordered_read data offset entry)
      (Reading.classed_read data offset entry)
    exact ⟨followed.apart, followed.added⟩

/-- The outermost level of a capture is ordered. -/
theorem ordered_readLink (link : LinkType) (data : Octets) :
    Reading.Ordered data 0 (readLink link data) := by
  cases link with
  | ethernet => exact Reading.ordered_ethernet data 0
  | rawIp => exact .passed trivial (Reading.ordered_ip data 0)

/-! ## Captures -/

/-- With the handlers of tunnels, no empty span is recorded. -/
theorem filled_dissectCapture (attached : d.registry = some Tunnel.registry)
    (captured : d.captureLength = data.size) (fresh : d.spans = []) :
    ∀ span ∈ (d.dissectCapture data).dissector.spans, 0 < span.length := by
  have tunnels : ∀ registry, d.registry = some registry →
      ∀ entry ∈ registry.entries, Tunnel.IsHandler entry.2 := by
    intro registry found entry member
    cases attached.symm.trans found
    exact Tunnel.isHandler_of_mem_handlers member
  -- What is in the table was offered, and nothing that is offered is empty.
  have recorded := (d.evolves_dissectCapture data).forall_spans
    (sized_dissectCapture captured tunnels) (by rw [fresh]; exact List.forall_mem_nil _)
  exact fun span member => (recorded span member).pos

/-- With the handlers of tunnels, of any two headers the one that was recorded first ends in front of
the other one. There is one exception, an ESP header of eight octets at the start of the payload of a
UDP header from the port of ESP to that of VXLAN or Geneve: it ends in front of the headers that were
recorded in that payload, and overlaps none but the header of that tunnel with which it starts.

So a payload is claimed by one handler at most: no other two headers start at one position. -/
theorem headers_apart (d : Dissector) (attached : d.registry = some Tunnel.registry)
    {buffer : Octets} {captureLength wireLength : Nat} (held : captureLength ≤ buffer.size)
    (wired : captureLength ≤ wireLength) (timestamp : UInt64) :
    ∃ traced, d.reset.dissect buffer captureLength wireLength timestamp = .ok traced ∧
      traced.1.headers.Pairwise
        (Span.Apart (buffer.extract 0 captureLength) traced.1.headers) ∧
      traced.1.headers.Pairwise fun front rear => front.offset = rear.offset →
        rear.Shares (buffer.extract 0 captureLength) traced.1.headers front.id := by
  have size : (buffer.extract 0 captureLength).size = captureLength := by
    rw [Array.size_extract]
    omega
  have begun : (d.reset.started captureLength wireLength timestamp).Orderly
      (buffer.extract 0 captureLength) 0 :=
    ⟨attached, size.symm, .nil, nofun⟩
  have reached := begun.follow
    (ordering_descend (d.reset.started captureLength wireLength timestamp).levelsLeft)
    (ordered_readLink d.config.link _) (classed_readLink d.config.link _)
  -- An empty header could start where another one does without overlapping it.
  have filled := filled_dissectCapture
    (d := d.reset.started captureLength wireLength timestamp) attached size.symm rfl
  refine ⟨_, dissect_held held wired timestamp, ?_⟩
  rw [Outcome.dissector_closed]
  refine ⟨reached.apart, reached.apart.imp_of_mem fun front _ apart same => ?_⟩
  exact apart.shares (filled _ (List.mem_of_mem_filter front)) same

/-- A datagram from the port of ESP to that of VXLAN with an Ethernet frame inside. The ESP header is
recorded last. It shares the octets of the VXLAN header, and ends in front of the Ethernet header. -/
theorem headers_apart_shared :
    let frame : Octets :=
      #[0x45, 0, 0, 50, 0, 0, 0, 0, 64, 17, 0, 0, 10, 0, 0, 1, 10, 0, 0, 2,
        0x11, 0x94, 0x12, 0xb5, 0, 30, 0, 0, 8, 0, 0, 0, 0, 0, 1, 0,
        2, 0, 0, 0, 0, 3, 2, 0, 0, 0, 0, 4, 0x88, 0xb5]
    let d : Dissector := { config := { link := .rawIp }, registry := some Tunnel.registry }
    d.registry = some Tunnel.registry ∧ 50 ≤ frame.size ∧ 50 ≤ 50 ∧
      ∃ traced, d.reset.dissect frame 50 50 0 = .ok traced ∧
        traced.1.headers.Pairwise (Span.Apart (frame.extract 0 50) traced.1.headers) ∧
        (traced.1.headers.Pairwise fun front rear => front.offset = rear.offset →
          rear.Shares (frame.extract 0 50) traced.1.headers front.id) ∧
        traced.1.headers = [⟨.ipv4, 0, 20⟩, ⟨.udp, 20, 8⟩, ⟨Tunnel.vxlanId, 28, 8⟩,
          ⟨.ethernet, 36, 14⟩, ⟨Tunnel.espId, 28, 8⟩] := by
  intro frame d
  have held : 50 ≤ frame.size := by decide
  obtain ⟨traced, dissected, apart, alone⟩ := headers_apart d rfl held (by decide : 50 ≤ 50) 0
  have told : (d.reset.dissect frame 50 50 0).toOption.map (·.1.headers) =
      some [⟨.ipv4, 0, 20⟩, ⟨.udp, 20, 8⟩, ⟨Tunnel.vxlanId, 28, 8⟩, ⟨.ethernet, 36, 14⟩,
        ⟨Tunnel.espId, 28, 8⟩] := by
    decide +kernel
  rw [dissected] at told
  exact ⟨rfl, held, by decide, traced, dissected, apart, alone, Option.some.inj told⟩

/-- A datagram from the port of ESP to that of VXLAN is claimed by both. -/
theorem payload_claimed_twice :
    let frame : Octets :=
      #[0x45, 0, 0, 36, 0, 0, 0, 0, 64, 17, 0, 0, 10, 0, 0, 1, 10, 0, 0, 2,
        0x11, 0x94, 0x12, 0xb5, 0, 16, 0, 0, 8, 0, 0, 0, 0, 0, 1, 0]
    let d : Dissector := { config := { link := .rawIp }, registry := some Tunnel.registry }
    ∃ traced, d.reset.dissect frame 36 36 0 = .ok traced ∧
      traced.1.headers = [⟨.ipv4, 0, 20⟩, ⟨.udp, 20, 8⟩, ⟨Tunnel.vxlanId, 28, 8⟩,
        ⟨Tunnel.espId, 28, 8⟩] ∧
      ¬traced.1.headers.Pairwise fun front rear =>
        front.offset + front.length ≤ rear.offset ∨ rear.offset + rear.length ≤ front.offset := by
  intro frame d
  have told : (d.reset.dissect frame 36 36 0).toOption.map (·.1.headers) =
      some [⟨.ipv4, 0, 20⟩, ⟨.udp, 20, 8⟩, ⟨Tunnel.vxlanId, 28, 8⟩, ⟨Tunnel.espId, 28, 8⟩] := by
    decide +kernel
  obtain ⟨traced, dissected, headers⟩ := ok_of_map_toOption told
  refine ⟨traced, dissected, headers, ?_⟩
  rw [headers]
  decide

end Dissector

end FrameSpans
