import FrameSpans.Proofs.Dissector.Growth
import FrameSpans.Proofs.Dissector.Steps
import FrameSpans.Proofs.Reading.Displacement

/-!
# Dissections of displaced octets

What is found in octets that stand further behind is found so much further behind. Two dissectors
that start with as many records and take the same steps, the second one each step moved, hold the
same spans but for the distance (`Dissector.Displaced.takeAll`): as long as the capture is no longer
than a span may be, a span is accepted if and only if the moved one is, so the tables fill alike and
all that was set of the packet is the same.

One case of this are octets that are put into the outermost header of a capture. Then the span of
that header grows, and all others are moved (`Dissector.Moved`). Following a moved reading keeps the
two dissectors in that relation (`Dissector.Moved.follow`, `Dissector.moving_descend`).
-/

namespace FrameSpans

/-! ## Recording -/

/-- Two dissectors with these handlers, the first one with a capture of `captureLength` octets, the
second one with a longer one. What each of them knew at first is `front` and `front'`; behind that
they found the same, the second one `distance` octets further on. -/
structure Dissector.Displaced (distance captureLength : Nat) (registry : Option Registry)
    (front front' : List Span) (d d' : Dissector) : Prop where
  /-- The policy is the same. -/
  config_eq : d'.config = d.config
  /-- Both ask these handlers. -/
  registry_eq : d.registry = registry ∧ d'.registry = registry
  /-- The depth is the same. -/
  depth_eq : d'.depth = d.depth
  /-- The tables have the same room. -/
  capacity_eq : d'.capacity = d.capacity
  /-- The second capture is longer. -/
  captureLength_eq : d.captureLength = captureLength ∧ d'.captureLength = captureLength + distance
  /-- Every span within the second capture has a word. -/
  captureLength_le : captureLength + distance ≤ Span.maxLength
  /-- What was set of the packet is the same. -/
  scalars_eq : d'.scalars = d.scalars
  /-- As many spans were known at first. -/
  length_eq : front'.length = front.length
  /-- The spans behind them are moved. -/
  spans_eq : ∃ rest, d.spans = front ++ rest ∧ d'.spans = front' ++ rest.map (·.moveBy distance)

namespace Dissector

namespace Displaced

variable {distance captureLength : Nat} {registry : Option Registry} {front front' : List Span}
  {d d' : Dissector}

/-- The tables hold as many records, and at least those that were known at first. -/
theorem recordCount_eq (h : Displaced distance captureLength registry front front' d d') :
    d'.recordCount = d.recordCount ∧ front.length ≤ d.recordCount := by
  obtain ⟨rest, spans, spans'⟩ := h.spans_eq
  have length := h.length_eq
  rw [← length_spans, ← length_spans, spans, spans', List.length_append, List.length_append,
    List.length_map]
  omega

/-- Only what a dissection may touch has to be compared again. -/
theorem keep {r r' : Dissector} (h : Displaced distance captureLength registry front front' d d')
    (kept : d.Keeps r) (kept' : d'.Keeps r') (scalars : r'.scalars = r.scalars)
    (spans : ∃ rest, r.spans = front ++ rest ∧ r'.spans = front' ++ rest.map (·.moveBy distance)) :
    Displaced distance captureLength registry front front' r r' where
  config_eq := by rw [kept'.config_eq, kept.config_eq, h.config_eq]
  registry_eq :=
    ⟨kept.registry_eq.trans h.registry_eq.1, kept'.registry_eq.trans h.registry_eq.2⟩
  depth_eq := by rw [kept'.depth_eq, kept.depth_eq, h.depth_eq]
  capacity_eq := by rw [kept'.capacity_eq, kept.capacity_eq, h.capacity_eq]
  captureLength_eq :=
    ⟨kept.captureLength_eq.trans h.captureLength_eq.1,
      kept'.captureLength_eq.trans h.captureLength_eq.2⟩
  captureLength_le := h.captureLength_le
  scalars_eq := scalars
  length_eq := h.length_eq
  spans_eq := spans

/-- Both enter an encapsulated packet. -/
theorem enter (h : Displaced distance captureLength registry front front' d d') :
    Displaced distance captureLength registry front front' { d with depth := d.depth + 1 }
      { d' with depth := d'.depth + 1 } :=
  { h with depth_eq := congrArg (· + 1) h.depth_eq }

/-- Both leave an encapsulated packet. -/
theorem leave (h : Displaced distance captureLength registry front front' d d') :
    Displaced distance captureLength registry front front' { d with depth := d.depth - 1 }
      { d' with depth := d'.depth - 1 } :=
  { h with depth_eq := congrArg (· - 1) h.depth_eq }

/-- A span fits into the first capture if and only if the moved one fits into the second. -/
theorem admits_iff (h : Displaced distance captureLength registry front front' d d')
    (span : Span) : d'.Admits (span.moveBy distance) ↔ d.Admits span := by
  obtain ⟨length, length'⟩ := h.captureLength_eq
  have short := h.captureLength_le
  unfold Admits Span.moveBy Span.maxOffset
  unfold Span.maxLength at short ⊢
  dsimp only
  omega

/-- A span is accepted if and only if the moved one is, and accepted spans are behind what was known
at first in both tables. -/
theorem offer (h : Displaced distance captureLength registry front front' d d') (span : Span) :
    (∃ r r', d.offer span = .ok r ∧ d'.offer (span.moveBy distance) = .ok r' ∧
        Displaced distance captureLength registry front front' r r') ∨
      ∃ reason reason', d.offer span = .error reason ∧
        d'.offer (span.moveBy distance) = .error reason' := by
  have full : d'.isFull = d.isFull := by
    rw [isFull, h.capacity_eq, h.recordCount_eq.1, isFull]
  -- Both tables have the same room, and a span fits if the moved one does.
  have same : (d'.offer (span.moveBy distance)).isOk = (d.offer span).isOk := by
    rw [Bool.eq_iff_iff, offer_isOk_iff, offer_isOk_iff, full, h.admits_iff]
  obtain ⟨r, r', offered, offered'⟩ | refused := both_of_isOk_eq same
  · obtain ⟨rest, spans, spans'⟩ := h.spans_eq
    refine .inl ⟨r, r', offered, offered',
      h.keep (Evolves.store offered).keeps (Evolves.store offered').keeps ?_
        ⟨rest ++ [span], ?_, ?_⟩⟩
    · obtain ⟨-, -, word, -, rfl⟩ := of_offer offered
      obtain ⟨-, -, word', -, rfl⟩ := of_offer offered'
      dsimp only [Span.moveBy]
      rw [h.scalars_eq]
      rfl
    · rw [spans_of_offer offered, spans, List.append_assoc]
    · rw [spans_of_offer offered', spans', List.map_append, List.append_assoc]
      rfl
  · exact .inr refused

/-- Offering a span to the first table and the moved one to the second keeps them alike. -/
theorem addSpan (h : Displaced distance captureLength registry front front' d d') (span : Span) :
    Displaced distance captureLength registry front front' (d.addSpan span).1
      (d'.addSpan (span.moveBy distance)).1 := by
  unfold Dissector.addSpan
  obtain ⟨r, r', offered, offered', moved⟩ | ⟨reason, reason', refused, refused'⟩ := h.offer span
  · rw [offered, offered']
    exact moved
  · rw [refused, refused']
    exact h

/-- Widening a record behind what was known at first keeps the tables alike. -/
theorem updateSpan (h : Displaced distance captureLength registry front front' d d') {index : Nat}
    (later : front.length ≤ index) (span : Span) :
    Displaced distance captureLength registry front front' (d.updateSpan index span).1
      (d'.updateSpan index (span.moveBy distance)).1 := by
  have same : (d'.widen index (span.moveBy distance)).isOk = (d.widen index span).isOk := by
    rw [Bool.eq_iff_iff, widen_isOk_iff, widen_isOk_iff, h.recordCount_eq.1, h.admits_iff]
  refine h.keep (d.evolves_updateSpan index span).keeps (d'.evolves_updateSpan index _).keeps ?_ ?_
  · rw [scalars_updateSpan, scalars_updateSpan, h.scalars_eq]
  · unfold Dissector.updateSpan
    obtain ⟨r, r', widened, widened'⟩ | ⟨reason, reason', kept, kept'⟩ := both_of_isOk_eq same
    · obtain ⟨rest, spans, spans'⟩ := h.spans_eq
      have later' : front'.length ≤ index := Nat.le_trans (Nat.le_of_eq h.length_eq) later
      rw [widened, widened']
      refine ⟨rest.set (index - front.length) span, ?_, ?_⟩
      · rw [spans_of_widen widened, spans, List.set_append_right _ _ later]
      · rw [spans_of_widen widened', spans', List.set_append_right _ _ later', h.length_eq,
          List.map_set]
    · rw [kept, kept']
      exact h.spans_eq

/-! ## Steps -/

/-- Marks keep the tables alike. -/
theorem takeMarks (h : Displaced distance captureLength registry front front' d d')
    (marks : List Mark) :
    Displaced distance captureLength registry front front' (d.takeMarks marks).1
      (d'.takeMarks (marks.map (·.moveBy distance))).1 := by
  induction marks generalizing d d' with
  | nil => exact h
  | cons mark rest ih =>
    refine ih (?_ : Displaced distance captureLength registry front front' (d.takeMark mark).1
      (d'.takeMark (mark.moveBy distance)).1)
    cases mark with
    | option span =>
      have policy : d'.config.recordsOption (span.moveBy distance).id =
          d.config.recordsOption span.id := by
        rw [h.config_eq]
        rfl
      unfold takeMark Mark.moveBy
      dsimp only
      rw [policy]
      split
      · exact h.addSpan span
      · exact h
    | fragment isLast =>
      refine h.keep (Evolves.fragment d isLast).keeps (Evolves.fragment d' isLast).keeps ?_
        h.spans_eq
      show { d'.scalars with isFragment := true, isLastFragment := isLast } = _
      rw [h.scalars_eq]
      rfl

/-- A header with its chain keeps the tables alike. -/
theorem takeChained (h : Displaced distance captureLength registry front front' d d')
    (base : Span) (marks : List Mark) (length : Nat) :
    Displaced distance captureLength registry front front' (d.takeChained base marks length).1
      (d'.takeChained (base.moveBy distance) (marks.map (·.moveBy distance)) length).1 := by
  unfold Dissector.takeChained
  obtain ⟨r, r', offered, offered', moved⟩ | ⟨reason, reason', refused, refused'⟩ := h.offer base
  · have index := h.recordCount_eq
    have marked := moved.takeMarks marks
    rw [offered, offered', index.1]
    dsimp only
    by_cases empty : length = 0
    · rw [if_pos empty, if_pos empty]
      exact marked
    · rw [if_neg empty, if_neg empty]
      exact marked.updateSpan index.2 { base with length := base.length + length }
  · rw [refused, refused']
    exact h.takeMarks marks

/-- A step keeps the tables alike. -/
theorem take (h : Displaced distance captureLength registry front front' d d') (step : Step) :
    Displaced distance captureLength registry front front' (d.take step).1
      (d'.take (step.moveBy distance)).1 := by
  cases step with
  | header span => exact h.addSpan span
  | mark mark => exact h.takeMarks [mark]
  | chained base marks length => exact h.takeChained base marks length
  | framing type =>
    show Displaced distance captureLength registry front front' (d.setFraming type)
      (d'.setFraming type)
    unfold setFraming
    by_cases outermost : d.depth = 0
    · rw [if_pos outermost, if_pos (h.depth_eq.trans outermost), h.scalars_eq]
      exact { h with scalars_eq := rfl }
    · rw [if_neg outermost, if_neg (by rw [h.depth_eq]; exact outermost)]
      exact h
  | payload | remark => exact h

/-- Steps keep the tables alike. -/
theorem takeAll (h : Displaced distance captureLength registry front front' d d')
    (steps : List Step) :
    Displaced distance captureLength registry front front' (d.takeAll steps).1
      (d'.takeAll (steps.map (·.moveBy distance))).1 := by
  induction steps generalizing d d' with
  | nil => exact h
  | cons step rest ih => exact ih (h.take step)

end Displaced

end Dissector

/-! ## Octets in the outermost header -/

/-- The first dissector has dissected a capture, the second one the same capture with octets put
into its outermost header. The span of that header in the first one is `outer`. There are no
handlers. -/
structure Dissector.Moved (distance : Nat) (outer : Span) (d d' : Dissector) : Prop where
  /-- The policy is the same. -/
  config_eq : d'.config = d.config
  /-- There are no handlers. -/
  registry_eq : d.registry = none ∧ d'.registry = none
  /-- The depth is the same. -/
  depth_eq : d'.depth = d.depth
  /-- The tables have the same room. -/
  capacity_eq : d'.capacity = d.capacity
  /-- The second capture is longer. -/
  captureLength_eq : d'.captureLength = d.captureLength + distance
  /-- Every span within the second capture has a word. -/
  captureLength_le : d'.captureLength ≤ Span.maxLength
  /-- What was set of the packet is the same. -/
  scalars_eq : d'.scalars = d.scalars
  /-- The first span grew, and all others are moved. -/
  spans_eq : ∃ rest, d.spans = outer :: rest ∧
    d'.spans = { outer with length := outer.length + distance } :: rest.map (·.moveBy distance)

namespace Dissector

variable {distance : Nat} {outer : Span} {d d' : Dissector}

/-- Behind the outermost header all spans are moved. -/
theorem Moved.displaced (h : Moved distance outer d d') :
    Displaced distance d.captureLength none [outer]
      [{ outer with length := outer.length + distance }] d d' where
  config_eq := h.config_eq
  registry_eq := h.registry_eq
  depth_eq := h.depth_eq
  capacity_eq := h.capacity_eq
  captureLength_eq := ⟨rfl, h.captureLength_eq⟩
  captureLength_le := Nat.le_trans (Nat.le_of_eq h.captureLength_eq.symm) h.captureLength_le
  scalars_eq := h.scalars_eq
  length_eq := rfl
  spans_eq := h.spans_eq

/-- If all spans behind the outermost header are moved, octets were put into that header. -/
theorem Displaced.moved {captureLength : Nat}
    (h : Displaced distance captureLength none [outer]
      [{ outer with length := outer.length + distance }] d d') : Moved distance outer d d' where
  config_eq := h.config_eq
  registry_eq := h.registry_eq
  depth_eq := h.depth_eq
  capacity_eq := h.capacity_eq
  captureLength_eq := by rw [h.captureLength_eq.1, h.captureLength_eq.2]
  captureLength_le := by
    rw [h.captureLength_eq.2]
    exact h.captureLength_le
  scalars_eq := h.scalars_eq
  spans_eq := h.spans_eq

end Dissector

/-- Descending into a packet behind `low` keeps the tables alike. -/
def Descent.Moving (distance low : Nat) (data moved : Octets) (deeper : Descent) : Prop :=
  ∀ (entry : Entry) (offset : Nat) (outer : Span) (d d' : Dissector), low ≤ offset →
    entry.Placed data offset → Dissector.Moved distance outer d d' →
      Dissector.Moved distance outer (deeper entry data offset d).dissector
        (deeper entry moved (offset + distance) d').dissector

namespace Dissector

section Walk

variable {distance low : Nat} {outer : Span} {data moved : Octets}

/-- Following a reading and the moved one keeps the tables alike. -/
theorem Moved.follow {deeper : Descent} (moving : deeper.Moving distance low data moved)
    {d d' : Dissector} (h : Moved distance outer d d') {start : Nat} {reading : Reading}
    (placed : reading.Placed data start) (behind : low ≤ start) :
    Moved distance outer (follow deeper data reading d).dissector
      (follow deeper moved (reading.moveBy distance) d').dissector := by
  have taken := (h.displaced.takeAll reading.steps).moved
  have place := placed.ending
  unfold Dissector.follow Reading.moveBy
  dsimp only
  cases ending : reading.ending with
  | complete | stopped => exact taken
  | encapsulated entry offset =>
    rw [ending] at place
    exact moving entry offset outer _ _ (Nat.le_trans behind place.1) place.2 taken
  | consult id offset inquiry =>
    -- There is nobody to ask.
    dsimp only [Ending.moveBy]
    unfold consult
    rw [taken.registry_eq.1, taken.registry_eq.2]
    cases inquiry with
    | ports | nextHeader => exact taken

/-- Entering encapsulated packets keeps the tables alike, however many levels are left. -/
theorem moving_descend (h : Octets.Moved distance low data moved) (levels : Nat) :
    Descent.Moving distance low data moved (descend levels) := by
  -- Induction on the levels that are left, as for `evolves_descend`.
  induction levels with
  | zero => exact fun _ _ _ _ _ _ _ same => same
  | succ levels ih =>
    intro entry offset outer d d' behind placed same
    have entered := same.displaced.enter.moved
    have inner := entered.follow ih (Reading.placed_read data placed) behind
    rw [← Reading.read_moved h entry behind] at inner
    exact inner.displaced.leave.moved

end Walk

end Dissector

end FrameSpans
