import FrameSpans.Proofs.Bitmask
import FrameSpans.Proofs.Dissector.Recording

/-!
# How a dissector changes

`Evolves d events d'` says that a dissector in state `d` may come to `d'` while `events` happen. Its
constructors are all that a dissection does: spans are recorded or refused, records are widened, the
flags of the packet are set, and encapsulated packets are entered and left. Everything else is an
event that changes nothing (`Event.IsNotice`).

What every change respects is proved here once, by induction over the constructors: what a
dissection can not touch (`Evolves.keeps`), the bound of the table (`Evolves.recordCount_le`), that
spans end within the capture (`Evolves.spans_within`), that the table is what the events make of it
(`Evolves.spans_eq_replay`), that the framing stays one that is known (`Evolves.known_framing`), that
no protocol is taken back (`Evolves.contains_bitmask`), and which events may occur at all
(`Evolves.depth_le`, `Evolves.index_lt`, `Evolves.of_refused`).
-/

namespace FrameSpans

/-! ## Events -/

/-- Whether an event tells of something that does not change the dissector. -/
def Event.IsNotice : Event → Prop
  | .payload .. | .remark _ | .unhandled .. | .asked .. | .note _ | .handlerFault | .stopped .. =>
    True
  | _ => False

/-- What an event makes of a list of spans. -/
def Event.replay (spans : List Span) : Event → List Span
  | .stored span => spans ++ [span]
  | .widened index span => spans.set index span
  | _ => spans

/-- Whether an event is that of a recorded span. -/
def Event.isStored : Event → Bool
  | .stored _ => true
  | _ => false

/-- A notice changes no list of spans. -/
theorem Event.replay_of_notice {event : Event} (h : event.IsNotice) (spans : List Span) :
    replay spans event = spans := by
  cases event with
  | stored | widened => exact h.elim
  | _ => rfl

/-- A notice is not about a recorded span. -/
theorem Event.isStored_of_notice {event : Event} (h : event.IsNotice) : event.isStored = false := by
  cases event with
  | stored => exact h.elim
  | _ => rfl

/-- What happens from the entry of a packet until it is left is one of the two, or happens
inside. -/
theorem Event.mem_nested {event : Event} {depth : Nat} {events : List Event}
    (h : event ∈ .entered depth :: events ++ [.left]) :
    event = .entered depth ∨ event ∈ events ∨ event = .left := by
  rw [List.cons_append, List.mem_cons, List.mem_append, List.mem_singleton] at h
  exact h

/-- Spans are recorded inside a packet, and not by its entry or its end. -/
theorem Event.countP_nested (depth : Nat) (events : List Event) :
    (Event.entered depth :: events ++ [Event.left]).countP isStored =
      events.countP isStored := by
  rw [List.countP_append, List.countP_cons]
  rfl

/-! ## Changes -/

/-- The dissector may change like this while these events happen. -/
inductive Evolves : Dissector → List Event → Dissector → Prop
  /-- Nothing happens. -/
  | nothing (d : Dissector) : Evolves d [] d
  /-- Something happens that changes nothing. -/
  | notice (d : Dissector) {event : Event} (h : event.IsNotice) : Evolves d [event] d
  /-- A span is recorded. -/
  | store {d d' : Dissector} {span : Span} (h : d.offer span = .ok d') :
    Evolves d [.stored span] d'
  /-- A span is refused. -/
  | refuse {d : Dissector} {span : Span} {reason : Refusal} (h : d.offer span = .error reason) :
    Evolves d [.refused span reason] d
  /-- A record is exchanged. -/
  | widen {d d' : Dissector} {index : Nat} {span : Span} (h : d.widen index span = .ok d') :
    Evolves d [.widened index span] d'
  /-- A record is not exchanged. -/
  | keep {d : Dissector} {index : Nat} {span : Span} {reason : Refusal}
    (h : d.widen index span = .error reason) : Evolves d [.refused span reason] d
  /-- The packet is marked as a fragment. -/
  | fragment (d : Dissector) (isLast : Bool) :
    Evolves d [.fragment isLast] (d.setFragment isLast)
  /-- The framing is set. -/
  | framing (d : Dissector) {type : L2Type} (known : type.isKnown = true) :
    Evolves d [] (d.setFraming type)
  /-- An encapsulated packet is entered, and left again. -/
  | nested {d d' : Dissector} {events : List Event} (level : d.depth < d.config.maxDepth.toNat)
    (inner : Evolves { d with depth := d.depth + 1 } events d') :
    Evolves d (.entered (d.depth + 1) :: events ++ [.left]) { d' with depth := d'.depth - 1 }
  /-- An encapsulated packet is not entered. -/
  | exhausted {d : Dissector} (level : d.config.maxDepth.toNat ≤ d.depth) :
    Evolves d [.depthReached d.depth] d
  /-- One change follows another. -/
  | append {d d₁ d₂ : Dissector} {events more : List Event} (first : Evolves d events d₁)
    (second : Evolves d₁ more d₂) : Evolves d (events ++ more) d₂

/-- An event that changes nothing may happen before a change. -/
theorem Evolves.cons {d d' : Dissector} {event : Event} {events : List Event} (h : event.IsNotice)
    (rest : Evolves d events d') : Evolves d (event :: events) d' :=
  .append (.notice d h) rest

/-! ## What does not change -/

/-- What a dissection leaves as it was. -/
structure Dissector.Keeps (d d' : Dissector) : Prop where
  /-- The policy. -/
  config_eq : d'.config = d.config
  /-- The handlers. -/
  registry_eq : d'.registry = d.registry
  /-- The number of captured octets. -/
  captureLength_eq : d'.captureLength = d.captureLength
  /-- The number of octets on the wire. -/
  wireLength_eq : d'.wireLength = d.wireLength
  /-- The room in the table. -/
  capacity_eq : d'.capacity = d.capacity
  /-- The depth: every packet that is entered is left. -/
  depth_eq : d'.depth = d.depth

namespace Evolves

variable {d d' : Dissector} {events : List Event}

/-- A dissection does not touch the policy, the handlers, the lengths, the room of the table, and
restores the depth. -/
theorem keeps (h : Evolves d events d') : d.Keeps d' := by
  induction h with
  | nothing | notice | refuse | keep | fragment | exhausted => exact ⟨rfl, rfl, rfl, rfl, rfl, rfl⟩
  | store offered =>
    obtain ⟨-, -, word, -, rfl⟩ := Dissector.of_offer offered
    exact ⟨rfl, rfl, rfl, rfl, rfl, rfl⟩
  | widen widened =>
    obtain ⟨-, -, word, -, rfl⟩ := Dissector.of_widen widened
    exact ⟨rfl, rfl, rfl, rfl, rfl, rfl⟩
  | framing d known =>
    unfold Dissector.setFraming
    split <;> exact ⟨rfl, rfl, rfl, rfl, rfl, rfl⟩
  | nested level inner ih =>
    obtain ⟨config, registry, captureLength, wireLength, capacity, depth⟩ := ih
    refine ⟨config, registry, captureLength, wireLength, capacity, ?_⟩
    -- Inside, the depth stays one above that outside, so it is restored.
    dsimp only at depth ⊢
    omega
  | append first second ih₁ ih₂ =>
    constructor
    · rw [ih₂.config_eq, ih₁.config_eq]
    · rw [ih₂.registry_eq, ih₁.registry_eq]
    · rw [ih₂.captureLength_eq, ih₁.captureLength_eq]
    · rw [ih₂.wireLength_eq, ih₁.wireLength_eq]
    · rw [ih₂.capacity_eq, ih₁.capacity_eq]
    · rw [ih₂.depth_eq, ih₁.depth_eq]

/-- The framing is set without touching the records. -/
theorem records_setFraming (d : Dissector) (type : L2Type) :
    (d.setFraming type).records = d.records := by
  unfold Dissector.setFraming
  split <;> rfl

/-- The framing is set without touching the spans. -/
theorem spans_setFraming (d : Dissector) (type : L2Type) :
    (d.setFraming type).spans = d.spans :=
  congrArg (List.map Span.decode) (records_setFraming d type)

/-! ## The table -/

/-- The table is what the events make of it: recorded spans are appended, and widened ones exchanged
in their places. -/
theorem spans_eq_replay (h : Evolves d events d') :
    d'.spans = events.foldl Event.replay d.spans := by
  induction h with
  | nothing | refuse | keep | fragment | exhausted => rfl
  | notice d notice => exact (Event.replay_of_notice notice d.spans).symm
  | store offered => exact Dissector.spans_of_offer offered
  | widen widened => exact Dissector.spans_of_widen widened
  | framing d known => exact spans_setFraming d _
  | nested level inner ih =>
    rw [List.foldl_append, List.foldl_cons]
    exact ih
  | append first second ih₁ ih₂ => rw [ih₂, ih₁, List.foldl_append]

/-- Each recorded span is one more record, and nothing else is. -/
theorem recordCount_eq (h : Evolves d events d') :
    d'.recordCount = d.recordCount + events.countP Event.isStored := by
  induction h with
  | nothing | refuse | keep | fragment | exhausted => rfl
  | notice d notice => rw [List.countP_singleton, Event.isStored_of_notice notice]; rfl
  | store offered =>
    obtain ⟨-, -, word, -, rfl⟩ := Dissector.of_offer offered
    exact List.length_append
  | widen widened =>
    obtain ⟨-, -, word, -, rfl⟩ := Dissector.of_widen widened
    exact List.length_set
  | framing d known => exact congrArg List.length (records_setFraming d _)
  | nested level inner ih =>
    rw [Event.countP_nested]
    exact ih
  | append first second ih₁ ih₂ => rw [ih₂, ih₁, List.countP_append, Nat.add_assoc]

/-- The table never outgrows its room. -/
theorem recordCount_le (h : Evolves d events d') {capacity : Nat}
    (room : d.capacity = some capacity) (bound : d.recordCount ≤ capacity) :
    d'.recordCount ≤ capacity := by
  induction h with
  | nothing | notice | refuse | keep | fragment | exhausted => exact bound
  | @store d d' span offered =>
    obtain ⟨free, -, word, -, rfl⟩ := Dissector.of_offer offered
    -- The table was not full, so one more record still fits.
    rw [Dissector.isFull, room] at free
    have more : (d.records ++ [word]).length = d.recordCount + 1 := List.length_append
    have free := of_decide_eq_false free
    show (d.records ++ [word]).length ≤ capacity
    omega
  | widen widened =>
    obtain ⟨-, -, word, -, rfl⟩ := Dissector.of_widen widened
    exact Nat.le_trans (Nat.le_of_eq List.length_set) bound
  | framing d known =>
    exact Nat.le_trans (Nat.le_of_eq (congrArg List.length (records_setFraming d _))) bound
  | nested level inner ih => exact ih room bound
  | append first second ih₁ ih₂ =>
    exact ih₂ (first.keeps.capacity_eq.trans room) (ih₁ room bound)

/-- A table that was full stays full. -/
theorem isFull (h : Evolves d events d') (full : d.isFull = true) : d'.isFull = true := by
  have count := h.recordCount_eq
  unfold Dissector.isFull at full ⊢
  rw [h.keeps.capacity_eq]
  cases room : d.capacity with
  | none =>
    rw [room] at full
    cases full
  | some capacity =>
    rw [room] at full
    have least := of_decide_eq_true full
    exact decide_eq_true (by omega)

/-- Spans end within the capture, if they did so before. -/
theorem spans_within (h : Evolves d events d')
    (within : ∀ span ∈ d.spans, span.offset + span.length ≤ d.captureLength) :
    ∀ span ∈ d'.spans, span.offset + span.length ≤ d'.captureLength := by
  -- A span is admitted only within the capture, and no change moves the end of the capture.
  induction h with
  | nothing | notice | refuse | keep | fragment | exhausted => exact within
  | store offered =>
    obtain ⟨-, ⟨fits, -⟩, -⟩ := Dissector.of_offer offered
    have same := (Evolves.store offered).keeps.captureLength_eq
    intro span member
    rw [Dissector.spans_of_offer offered, List.mem_append, List.mem_singleton] at member
    rw [same]
    rcases member with old | rfl
    · exact within span old
    · exact fits
  | widen widened =>
    obtain ⟨-, ⟨fits, -⟩, -⟩ := Dissector.of_widen widened
    have same := (Evolves.widen widened).keeps.captureLength_eq
    intro span member
    rw [Dissector.spans_of_widen widened] at member
    rw [same]
    rcases List.mem_or_eq_of_mem_set member with old | rfl
    · exact within span old
    · exact fits
  | @framing d type known =>
    rw [spans_setFraming, (Evolves.framing d known).keeps.captureLength_eq]
    exact within
  | nested level inner ih => exact ih within
  | append first second ih₁ ih₂ => exact ih₂ (ih₁ within)

/-! ## The framing -/

/-- The framing stays one that is known. -/
theorem known_framing (h : Evolves d events d') (known : d.scalars.l2Type.isKnown = true) :
    d'.scalars.l2Type.isKnown = true := by
  induction h with
  | nothing | notice | refuse | keep | fragment | exhausted => exact known
  | store offered =>
    obtain ⟨-, -, word, -, rfl⟩ := Dissector.of_offer offered
    exact known
  | widen widened =>
    obtain ⟨-, -, word, -, rfl⟩ := Dissector.of_widen widened
    exact known
  | framing d found =>
    unfold Dissector.setFraming
    split
    · exact found
    · exact known
  | nested level inner ih => exact ih known
  | append first second ih₁ ih₂ => exact ih₂ (ih₁ known)

/-! ## The set of protocols -/

/-- No protocol is taken out of the set of protocols. -/
theorem contains_bitmask (h : Evolves d events d') {id : ProtocolId}
    (reported : d.scalars.bitmask.contains id = true) :
    d'.scalars.bitmask.contains id = true := by
  induction h with
  | nothing | notice | refuse | keep | fragment | exhausted => exact reported
  | store offered =>
    obtain ⟨-, -, word, -, rfl⟩ := Dissector.of_offer offered
    dsimp only
    split
    · exact (Bitmask.contains_insert ..).mpr (.inl reported)
    · exact reported
  | widen widened =>
    obtain ⟨-, -, word, -, rfl⟩ := Dissector.of_widen widened
    exact reported
  | framing d known =>
    unfold Dissector.setFraming
    split <;> exact reported
  | nested level inner ih => exact ih reported
  | append first second ih₁ ih₂ => exact ih₂ (ih₁ reported)

/-! ## Events that occur -/

/-- No packet is entered below the greatest depth. -/
theorem depth_le (h : Evolves d events d') {depth : Nat} (entered : .entered depth ∈ events) :
    depth ≤ d.config.maxDepth.toNat := by
  induction h with
  | nothing | framing => cases entered
  | notice d notice =>
    cases List.mem_singleton.mp entered
    exact notice.elim
  | store | refuse | widen | keep | fragment | exhausted => cases List.mem_singleton.mp entered
  | nested level inner ih =>
    rcases Event.mem_nested entered with here | deeper | left
    · cases here
      exact level
    · exact ih deeper
    · cases left
  | append first second ih₁ ih₂ =>
    rcases List.mem_append.mp entered with early | late
    · exact ih₁ early
    · rw [← first.keeps.config_eq]
      exact ih₂ late

/-- A record that is exchanged is one of the table. -/
theorem index_lt (h : Evolves d events d') {index : Nat} {span : Span}
    (widened : .widened index span ∈ events) : index < d'.recordCount := by
  induction h with
  | nothing | framing => cases widened
  | notice d notice =>
    cases List.mem_singleton.mp widened
    exact notice.elim
  | store | refuse | keep | fragment | exhausted => cases List.mem_singleton.mp widened
  | widen exchanged =>
    cases List.mem_singleton.mp widened
    have count := (Evolves.widen exchanged).recordCount_eq
    obtain ⟨occupied, -⟩ := Dissector.of_widen exchanged
    omega
  | nested level inner ih =>
    rcases Event.mem_nested widened with here | deeper | left
    · cases here
    · exact ih deeper
    · cases left
  | append first second ih₁ ih₂ =>
    -- The table does not shrink, so an index that was in it stays in it.
    have count := second.recordCount_eq
    rcases List.mem_append.mp widened with early | late
    · have := ih₁ early
      omega
    · exact ih₂ late

/-- A span that is refused was offered, as one more record or in the place of one, to a dissector of
the same capture. -/
theorem of_refused (h : Evolves d events d') {span : Span} {reason : Refusal}
    (refused : .refused span reason ∈ events) :
    ∃ before : Dissector, before.captureLength = d.captureLength ∧
      (before.offer span = .error reason ∨ ∃ index, before.widen index span = .error reason) := by
  induction h with
  | nothing | framing => cases refused
  | notice d notice =>
    cases List.mem_singleton.mp refused
    exact notice.elim
  | store | widen | fragment | exhausted => cases List.mem_singleton.mp refused
  | @refuse d _ _ offered =>
    cases List.mem_singleton.mp refused
    exact ⟨d, rfl, .inl offered⟩
  | @keep d index _ _ kept =>
    cases List.mem_singleton.mp refused
    exact ⟨d, rfl, .inr ⟨index, kept⟩⟩
  | nested level inner ih =>
    rcases Event.mem_nested refused with here | deeper | left
    · cases here
    · exact ih deeper
    · cases left
  | append first second ih₁ ih₂ =>
    rcases List.mem_append.mp refused with early | late
    · exact ih₁ early
    · rw [← first.keeps.captureLength_eq]
      exact ih₂ late

end Evolves

end FrameSpans
