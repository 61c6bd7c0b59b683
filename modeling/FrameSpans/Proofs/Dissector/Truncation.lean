import FrameSpans.Proofs.Dissector.Growth
import FrameSpans.Proofs.Dissector.Safety
import FrameSpans.Proofs.Dissector.Steps
import FrameSpans.Proofs.Reading.Cut

/-!
# Captures of one packet

A capture holds the first octets of a packet. Two dissections of the same packet, of fewer octets
and of more, are followed side by side under relations that extend `Shortened`.

Where the fewer octets end, the one dissection comes to rest: behind the octets no reading offers a
span, and no level finds anything (`Dissector.idle_descend`). The other goes on. What is needed of
handlers is that they do nothing behind the octets either (`Handler.Idle`).
-/

namespace FrameSpans

/-! ## Behind the octets -/

/-- A handler that does nothing when it is asked about a place behind the octets. -/
def Handler.Idle (handler : Handler) : Prop :=
  ∀ call : Consultation, call.data.size ≤ call.offset →
    handler call = .done ∨ handler call = .fault

/-- All handlers that may be asked do nothing behind the octets. -/
def Dissector.Restful (d : Dissector) : Prop :=
  ∀ registry, d.registry = some registry → ∀ entry ∈ registry.entries, Handler.Idle entry.2

/-- An evolution asks the same handlers. -/
theorem Dissector.Restful.evolve {d d' : Dissector} (h : d.Restful) {events : List Event}
    (evolved : Evolves d events d') : d'.Restful :=
  fun registry found => h registry (evolved.keeps.registry_eq.symm.trans found)

/-- Descending behind the octets leaves the table as it is. -/
def Descent.Idle (deeper : Descent) : Prop :=
  ∀ (entry : Entry) (data : Octets) (offset : Nat) (d : Dissector), data.size ≤ offset →
    d.Restful → (deeper entry data offset d).dissector.spans = d.spans

namespace Dissector

/-- A step that offers no span changes nothing but the scalars. -/
theorem take_idle (d : Dissector) {step : Step} (idle : step.Idle) :
    ∃ scalars, (d.take step).1 = { d with scalars } := by
  cases step with
  | header | chained => exact idle.elim
  | mark found =>
    cases found with
    | option span => exact idle.elim
    | fragment isLast => exact ⟨_, rfl⟩
  | framing type =>
    show ∃ scalars, d.setFraming type = _
    unfold setFraming
    split
    · exact ⟨_, rfl⟩
    · exact ⟨d.scalars, rfl⟩
  | payload | remark => exact ⟨d.scalars, rfl⟩

/-- Steps that offer no span change nothing but the scalars. -/
theorem takeAll_idle (d : Dissector) {steps : List Step} (idle : ∀ step ∈ steps, step.Idle) :
    ∃ scalars, (d.takeAll steps).1 = { d with scalars } := by
  induction steps generalizing d with
  | nil => exact ⟨d.scalars, rfl⟩
  | cons step rest ih =>
    obtain ⟨first, others⟩ := List.forall_mem_cons.mp idle
    obtain ⟨scalars, taken⟩ := d.take_idle first
    show ∃ last, ((d.take step).1.takeAll rest).1 = { d with scalars := last }
    rw [taken]
    exact ih { d with scalars } others

/-- Asking handlers about a place behind the octets leaves everything as it is. -/
theorem consult_idle (deeper : Descent) (call : Consultation)
    (behind : call.data.size ≤ call.offset) {d : Dissector} (rest : d.Restful) :
    (consult deeper call d).1 = d := by
  have asked (handlers : List (Nat × Handler)) (idle : ∀ entry ∈ handlers, Handler.Idle entry.2) :
      (askAll deeper call handlers d).1 = d := by
    induction handlers with
    | nil => rfl
    | cons entry others ih =>
      obtain ⟨here, later⟩ := List.forall_mem_cons.mp idle
      rw [askAll]
      rcases here call behind with answer | answer
      · rw [answer]
        exact ih later
      · rw [answer]
        exact ih later
  unfold consult
  split
  · next registry found =>
    exact asked _ fun entry member =>
      rest registry found (call.id, entry.2) (Registry.mem_of_mem_handlers member)
  · rfl
  · rfl

/-- Following a barren reading leaves the table as it is. -/
theorem follow_barren {deeper : Descent} (idle : deeper.Idle) {data : Octets} {reading : Reading}
    (barren : reading.Barren data.size) {d : Dissector} (rest : d.Restful) :
    (follow deeper data reading d).dissector.spans = d.spans := by
  obtain ⟨scalars, taken⟩ := d.takeAll_idle barren.steps
  have leads := barren.ending
  unfold follow
  dsimp only
  rw [taken]
  split
  · rfl
  · rfl
  · next entry offset ending =>
    rw [ending] at leads
    exact idle entry data offset { d with scalars } leads rest
  · next id offset inquiry ending =>
    rw [ending] at leads
    have asked : (consult deeper ⟨data, offset, id, inquiry⟩ { d with scalars }).1 =
        { d with scalars } :=
      consult_idle deeper ⟨data, offset, id, inquiry⟩ leads rest
    exact (congrArg spans asked :)

/-- Following steps and a barren reading behind them leaves the table that the steps leave. -/
theorem spans_follow_after_barren {deeper : Descent} (idle : deeper.Idle) {data : Octets}
    {steps : List Step} {size : Nat} (sound : ∀ step ∈ steps, step.Sound size) {rest : Reading}
    (barren : rest.Barren data.size) {d : Dissector} (restful : d.Restful) :
    (follow deeper data (Reading.after steps rest) d).dissector.spans =
      (d.takeAll steps).1.spans := by
  rw [follow_after]
  exact follow_barren idle barren (restful.evolve (d.evolves_takeAll sound))

/-- Following steps and a reading behind them leaves the spans that the steps leave as they are. -/
theorem prefix_follow_after {deeper : Descent} (growing : deeper.Growing) (data : Octets)
    (steps : List Step) (rest : Reading) (d : Dissector) :
    (d.takeAll steps).1.spans <+:
      (follow deeper data (Reading.after steps rest) d).dissector.spans := by
  rw [follow_after]
  exact carried_prefix.follow growing data rest (d.takeAll steps).1

/-- Entering packets behind the octets leaves the table as it is, however many levels are left. -/
theorem idle_descend (levels : Nat) : Descent.Idle (descend levels) := by
  -- Induction on the levels that are left, as for `evolves_descend`.
  induction levels with
  | zero => exact fun _ _ _ _ _ _ => rfl
  | succ levels ih =>
    intro entry data offset d behind rest
    exact follow_barren ih (Reading.barren_read behind entry)
      (d := { d with depth := d.depth + 1 }) rest

/-- A mark that ends behind the octets leaves the table as it is. -/
theorem spans_takeMark_beyond (d : Dissector) {mark : Mark} (beyond : mark.Beyond d.captureLength) :
    (d.takeMark mark).1.spans = d.spans := by
  cases mark with
  | fragment isLast => rfl
  | option span =>
    unfold takeMark
    dsimp only
    split
    · unfold addSpan
      cases offered : d.offer span with
      | error reason => rfl
      | ok recorded =>
        obtain ⟨-, admits, -⟩ := of_offer offered
        exact absurd admits.1 (Nat.not_le.mpr beyond)
    · rfl

/-- Marks that end behind the octets leave the table as it is. -/
theorem spans_takeMarks_beyond (d : Dissector) {marks : List Mark}
    (beyond : ∀ mark ∈ marks, mark.Beyond d.captureLength) :
    (d.takeMarks marks).1.spans = d.spans := by
  induction marks generalizing d with
  | nil => rfl
  | cons mark rest ih =>
    obtain ⟨first, others⟩ := List.forall_mem_cons.mp beyond
    have keeps := (d.evolves_takeMark mark).keeps.captureLength_eq
    rw [← d.spans_takeMark_beyond first]
    exact ih (d.takeMark mark).1 (keeps ▸ others)

end Dissector

/-! ## Two captures -/

/-- Two dissectors of the same short packet, with fewer octets captured and with more. -/
structure Shortened (data whole : Octets) (d u : Dissector) : Prop extends Abreast d u where
  /-- The policy is the same. -/
  config_eq : u.config = d.config
  /-- The tables have the same room. -/
  capacity_eq : u.capacity = d.capacity
  /-- The fewer octets are the first ones. -/
  begins : Octets.Begins data whole
  /-- Every length fits into a span. -/
  small : whole.size ≤ Span.maxLength
  /-- On the one side the fewer octets are captured. -/
  captureLength_eq : d.captureLength = data.size
  /-- On the other side more are. -/
  captureLength_eq' : u.captureLength = whole.size
  /-- The first table keeps to its room. -/
  bounded : ∀ capacity, d.capacity = some capacity → d.recordCount ≤ capacity
  /-- Handlers do nothing behind the octets. -/
  restful : d.Restful

namespace Shortened

variable {data whole : Octets} {d d' u u' : Dissector} {events more : List Event}

/-- Whatever happens on either side, they stay dissectors of the same packet. -/
theorem evolve (h : Shortened data whole d u) (left : Evolves d events d')
    (right : Evolves u more u') : Shortened data whole d' u' where
  toAbreast := h.toAbreast.evolve left right
  config_eq := by rw [right.keeps.config_eq, left.keeps.config_eq, h.config_eq]
  capacity_eq := by rw [right.keeps.capacity_eq, left.keeps.capacity_eq, h.capacity_eq]
  begins := h.begins
  small := h.small
  captureLength_eq := left.keeps.captureLength_eq.trans h.captureLength_eq
  captureLength_eq' := right.keeps.captureLength_eq.trans h.captureLength_eq'
  bounded capacity room := by
    rw [left.keeps.capacity_eq] at room
    exact left.recordCount_le room (h.bounded capacity room)
  restful := h.restful.evolve left

/-- Both enter an encapsulated packet. -/
theorem enter (h : Shortened data whole d u) :
    Shortened data whole { d with depth := d.depth + 1 } { u with depth := u.depth + 1 } :=
  { h with toAbreast := h.toAbreast.enter }

/-- Both leave an encapsulated packet. -/
theorem leave (h : Shortened data whole d u) :
    Shortened data whole { d with depth := d.depth - 1 } { u with depth := u.depth - 1 } :=
  { h with toAbreast := h.toAbreast.leave }

/-- Every span that ends within the fewer octets is admitted there. -/
theorem admits (h : Shortened data whole d u) {span : Span}
    (within : span.offset + span.length ≤ data.size) : d.Admits span := by
  rw [← h.captureLength_eq] at within
  refine Dissector.admits_of_le ?_ within
  rw [h.captureLength_eq]
  exact Nat.le_trans h.begins.size_le h.small

/-- Every span that ends within the more octets is admitted there. -/
theorem admits' (h : Shortened data whole d u) {span : Span}
    (within : span.offset + span.length ≤ whole.size) : u.Admits span := by
  rw [← h.captureLength_eq'] at within
  refine Dissector.admits_of_le ?_ within
  rw [h.captureLength_eq']
  exact h.small

/-- A full table of the fewer octets stays as it is. -/
theorem spans_eq_of_isFull (h : Shortened data whole d u) (full : d.isFull = true)
    (evolved : Evolves d events d') (grown : d.spans <+: d'.spans) : d'.spans = d.spans := by
  cases room : d.capacity with
  | none =>
    rw [Dissector.isFull, room] at full
    cases full
  | some capacity =>
    exact Dissector.spans_eq_of_isFull room full grown
      (evolved.recordCount_le room (h.bounded capacity room))

end Shortened

/-! ## Captures -/

/-- The readings of the outermost level. -/
theorem Reading.cut_readLink {data whole : Octets} (h : Octets.Begins data whole)
    (link : LinkType) :
    Cut data.size whole.size (Dissector.readLink link data) (Dissector.readLink link whole) := by
  cases link with
  | ethernet => exact cut_ethernet h 0
  | rawIp => exact .after (List.forall_mem_cons.mpr ⟨trivial, nofun⟩) (cut_ip h 0)

/-- Dissectors that were reset and set out to dissect captures of the same short packet. -/
theorem Dissector.shortened_started {d : Dissector} (idle : d.Restful) {frame : Octets}
    (small : frame.size ≤ Span.maxLength) {shorter longer : Nat} (le : shorter ≤ longer)
    (held : longer ≤ frame.size) (wireLength wireLength' : Nat) (timestamp timestamp' : UInt64) :
    Shortened (frame.extract 0 shorter) (frame.extract 0 longer)
      (d.reset.started shorter wireLength timestamp)
      (d.reset.started longer wireLength' timestamp') where
  maxDepth_eq := rfl
  depth_eq := rfl
  registry_eq := rfl
  config_eq := rfl
  capacity_eq := rfl
  begins := Octets.begins_extract le held (roomy_of_le_maxLength (Nat.le_trans held small))
  small := by
    rw [Array.size_extract]
    omega
  captureLength_eq := by
    rw [Array.size_extract, Nat.min_eq_left (Nat.le_trans le held)]
    rfl
  captureLength_eq' := by
    rw [Array.size_extract, Nat.min_eq_left held]
    rfl
  bounded capacity _ := Nat.zero_le capacity
  restful := idle

end FrameSpans
