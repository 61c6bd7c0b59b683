import FrameSpans.Proofs.Session.Reachable

/-!
# The table of a session

The table of a session holds what its trace tells (`Session.spans_eq_replay_run`), whatever the
operations, and the trace tells of every span that the owner offered and that was accepted
(`Dissector.addSpan_of_accepts`, `Dissector.updateSpan_of_accepts`). Its spans end within the
capture if there is a reset between any two dissections (`Dissector.Within.run`): a second capture
may be shorter than the one whose spans are still in the table, and nothing checks them against it.
`table_of_session` puts this together with the bound of the table, and with what a refused operation
does, which is nothing.
-/

namespace FrameSpans

/-! ## Spans and trace -/

/-- An operation other than a reset makes of the table what its events tell. -/
theorem Dissector.Performs.spans_eq_replay {d : Dissector} {operation : Operation}
    {traced : Traced} (h : d.Performs operation traced) (stays : operation ≠ .reset) :
    traced.1.spans = traced.2.foldl Event.replay d.spans := by
  cases h with
  | reset => exact absurd rfl stays
  | set _ same => exact congrArg (List.map Span.decode) same.records_eq
  | evolve _ evolved => exact evolved.spans_eq_replay
  | capture held evolved => exact evolved.spans_eq_replay

namespace Session

/-- An operation keeps the table and the trace of a session in agreement. -/
theorem spans_eq_replay_perform {session : Session}
    (h : session.dissector.spans = session.events.foldl Event.replay []) (operation : Operation) :
    (session.perform operation).dissector.spans =
      (session.perform operation).events.foldl Event.replay [] := by
  by_cases reset : operation = .reset
  · -- The table is empty and the trace starts anew.
    rw [reset]
    rfl
  · have told := (session.dissector.performs operation).spans_eq_replay reset
    rw [perform_of_ne_reset session reset, List.foldl_append, ← h]
    exact told

/-- The table of a session is what its trace tells: the accepted spans in the order of their
acceptance, with those that were exchanged in their places. -/
theorem spans_eq_replay_run {session : Session}
    (h : session.dissector.spans = session.events.foldl Event.replay [])
    (operations : List Operation) :
    (session.run operations).dissector.spans =
      (session.run operations).events.foldl Event.replay [] := by
  induction operations generalizing session with
  | nil => exact h
  | cons operation rest ih => exact ih (spans_eq_replay_perform h operation)

end Session

/-! ## Spans and captures -/

namespace Operation

/-- Before an operation other than a reset nothing was dissected, if nothing was behind it. -/
theorem dissected_eq_false {before : Bool} {operation : Operation} (stays : operation ≠ .reset)
    (idle : operation.dissected before = false) : before = false := by
  cases operation with
  | reset => exact absurd rfl stays
  | dissect => cases idle
  | _ => exact idle

/-- What separation says of the first of some operations and of the others. -/
theorem separated_cons {before : Bool} {operation : Operation} {rest : List Operation}
    (h : separated before (operation :: rest) = true) :
    (operation.dissected false = true → before = false) ∧
      separated (operation.dissected before) rest = true := by
  cases operation with
  | dissect =>
    obtain ⟨first, others⟩ := Bool.and_eq_true_iff.mp h
    exact ⟨fun _ => by simpa using first, others⟩
  | _ => exact ⟨nofun, h⟩

end Operation

namespace Dissector

/-- All spans end within the capture, which is empty before a capture is dissected. -/
structure Within (dissected : Bool) (d : Dissector) : Prop where
  /-- Each span ends within the capture. -/
  spans_le : ∀ span ∈ d.spans, span.offset + span.length ≤ d.captureLength
  /-- There is no capture yet. -/
  captureLength_eq : dissected = false → d.captureLength = 0

/-- An evolution keeps spans within the capture. -/
theorem Within.evolve {dissected : Bool} {d d' : Dissector} {events : List Event}
    (h : d.Within dissected) (evolved : Evolves d events d') : d'.Within dissected where
  spans_le := evolved.spans_within h.spans_le
  captureLength_eq idle := evolved.keeps.captureLength_eq.trans (h.captureLength_eq idle)

/-- Setting something keeps spans within the capture. -/
theorem Within.set {dissected : Bool} {d d' : Dissector} (h : d.Within dissected)
    (same : d.SamePacket d') : d'.Within dissected where
  spans_le := by
    rw [spans, same.records_eq, same.captureLength_eq]
    exact h.spans_le
  captureLength_eq idle := same.captureLength_eq.trans (h.captureLength_eq idle)

/-- The first dissection finds the spans that are there within the capture, because they are within
an empty one. -/
theorem Within.started {d : Dissector} (h : d.Within false) (captureLength wireLength : Nat)
    (timestamp : UInt64) : (d.started captureLength wireLength timestamp).Within true where
  spans_le span member := by
    have within := h.spans_le span member
    rw [h.captureLength_eq rfl] at within
    exact Nat.le_trans within (Nat.zero_le captureLength)
  captureLength_eq := nofun

/-- Spans within the capture are within it when an operation other than a reset follows. -/
theorem Within.later {dissected : Bool} {d : Dissector} (h : d.Within dissected)
    {operation : Operation} (stays : operation ≠ .reset) :
    d.Within (operation.dissected dissected) where
  spans_le := h.spans_le
  captureLength_eq idle := h.captureLength_eq (Operation.dissected_eq_false stays idle)

/-- An operation keeps spans within the capture, unless it is a second dissection. -/
theorem Within.performed {dissected : Bool} {d : Dissector} (h : d.Within dissected)
    {operation : Operation} {traced : Traced} (performed : d.Performs operation traced)
    (first : operation.dissected false = true → dissected = false) :
    traced.1.Within (operation.dissected dissected) := by
  cases performed with
  | reset => exact ⟨nofun, fun _ => rfl⟩
  | set stays same => exact (h.set same).later stays
  | evolve stays evolved => exact (h.evolve evolved).later stays
  | capture held evolved =>
    -- Since the last reset no span was accepted but empty ones at the start.
    obtain rfl := first rfl
    exact (h.started _ _ _).evolve evolved

/-- Operations that separate their dissections keep spans within the capture. -/
theorem Within.run {dissected : Bool} {session : Session} (h : session.dissector.Within dissected)
    {operations : List Operation} (separated : Operation.separated dissected operations = true) :
    ∃ dissected, (session.run operations).dissector.Within dissected := by
  -- The flag follows what separation keeps track of: whether there is a capture since the last reset.
  induction operations generalizing session dissected with
  | nil => exact ⟨dissected, h⟩
  | cons operation rest ih =>
    obtain ⟨first, others⟩ := Operation.separated_cons separated
    have within : (session.perform operation).dissector.Within (operation.dissected dissected) := by
      rw [Session.dissector_perform]
      exact h.performed (session.dissector.performs operation) first
    exact ih within others

/-! ## Accepted and refused operations -/

/-- A span that is accepted is told as recorded. -/
theorem addSpan_of_accepts {d : Dissector} {span : Span}
    (h : d.refuses (.addSpan span) = false) : (d.addSpan span).2 = [.stored span] := by
  cases offered : d.offer span with
  | ok recorded => rw [addSpan, offered]
  | error reason => simp [refuses, offered, Except.isOk, Except.toBool] at h

/-- A span that is accepted in the place of a record is told so. -/
theorem updateSpan_of_accepts {d : Dissector} {index : Nat} {span : Span}
    (h : d.refuses (.updateSpan index span) = false) :
    (d.updateSpan index span).2 = [.widened index span] := by
  cases widened : d.widen index span with
  | ok recorded => rw [updateSpan, widened]
  | error reason => simp [refuses, widened, Except.isOk, Except.toBool] at h

/-- An operation that is refused changes nothing. -/
theorem perform_of_refuses {d : Dissector} {operation : Operation}
    (h : d.refuses operation = true) : (d.perform operation).1 = d := by
  cases operation with
  | addSpan span =>
    show (d.addSpan span).1 = d
    cases offered : d.offer span with
    | ok recorded => simp [refuses, offered, Except.isOk, Except.toBool] at h
    | error reason => rw [addSpan, offered]
  | updateSpan index span =>
    show (d.updateSpan index span).1 = d
    cases widened : d.widen index span with
    | ok recorded => simp [refuses, widened, Except.isOk, Except.toBool] at h
    | error reason => rw [updateSpan, widened]
  | dissect buffer captureLength wireLength timestamp =>
    cases dissected : d.dissect buffer captureLength wireLength timestamp with
    | ok traced => simp [refuses, dissected, Except.isOk, Except.toBool] at h
    | error reason => simp only [Dissector.perform, dissected]
  | _ => cases h

end Dissector

/-! ## The table -/

/-- What is promised of the table of a session. -/
structure Session.TableHolds (session : Session) : Prop where
  /-- There are no more records than the table has room for. -/
  recordCount_le : session.dissector.recordCount ≤ maxRecords
  /-- Every record is the word of a span that ends within the capture. -/
  within : ∀ word ∈ session.dissector.records,
    (Span.decode word).offset + (Span.decode word).length ≤ session.dissector.captureLength
  /-- The spans are those accepted since the last reset, in the order of their acceptance, with
  those that were exchanged in their places. -/
  spans_eq : session.dissector.spans = session.events.foldl Event.replay []
  /-- A span that is offered next and accepted is told as recorded. -/
  stored : ∀ span, session.dissector.refuses (.addSpan span) = false →
    (session.perform (.addSpan span)).events = session.events ++ [.stored span]
  /-- A span that is offered next in the place of a record and accepted is told so. -/
  widened : ∀ index span, session.dissector.refuses (.updateSpan index span) = false →
    (session.perform (.updateSpan index span)).events = session.events ++ [.widened index span]
  /-- An operation that is refused changes nothing. -/
  refused : ∀ operation, session.dissector.refuses operation = true →
    (session.dissector.perform operation).1 = session.dissector

/-- Whatever the policy, the handlers and the operations, the table of a session is as promised if
there is a reset between any two dissections. -/
theorem table_of_session (config : Config) (registry : Option Registry)
    (operations : List Operation) (separated : Operation.separated false operations = true) :
    ((Session.start config registry).run operations).TableHolds := by
  have wellFormed := Session.wellFormed_run config registry operations
  have empty : (Session.start config registry).dissector.Within false := ⟨nofun, fun _ => rfl⟩
  obtain ⟨dissected, within⟩ := empty.run separated
  constructor
  · exact wellFormed.recordCount_le
  · intro word member
    exact within.spans_le (Span.decode word) (List.mem_map_of_mem member)
  · exact Session.spans_eq_replay_run rfl operations
  · intro span accepted
    exact congrArg (_ ++ ·) (Dissector.addSpan_of_accepts accepted)
  · intro index span accepted
    exact congrArg (_ ++ ·) (Dissector.updateSpan_of_accepts accepted)
  · intro operation refused
    exact Dissector.perform_of_refuses refused

/-- Two packets with a reset between them. Of the spans that are offered behind the second one, with
the packet in it that was dissected as well, one ends in the capture and one behind it; of those in
the place of a record, one finds its record and one does not. -/
theorem table_of_two_packets :
    let operations : List Operation :=
      [.dissect (.replicate 60 0) 60 60 1, .addSpan ⟨.udp, 14, 8⟩, .reset,
        .dissect (.replicate 40 0) 40 64 2, .dissectInner .frame (.replicate 40 0) 14,
        .addSpan ⟨.udp, 20, 8⟩, .addSpan ⟨.udp, 40, 1⟩, .updateSpan 0 ⟨.ethernet, 0, 18⟩,
        .updateSpan 9 ⟨.ethernet, 0, 18⟩]
    let session := (Session.start {} (some .empty)).run operations
    Operation.separated false operations = true ∧ session.TableHolds ∧
      session.dissector.spans =
        [⟨.ethernet, 0, 18⟩, ⟨.llc, 14, 3⟩, ⟨.ethernet, 14, 14⟩, ⟨.llc, 28, 3⟩, ⟨.udp, 20, 8⟩] ∧
      session.events.foldl Event.replay [] =
        [⟨.ethernet, 0, 18⟩, ⟨.llc, 14, 3⟩, ⟨.ethernet, 14, 14⟩, ⟨.llc, 28, 3⟩, ⟨.udp, 20, 8⟩] := by
  intro operations session
  have holds : session.TableHolds := table_of_session {} (some .empty) operations rfl
  have table : session.dissector.spans =
      [⟨.ethernet, 0, 18⟩, ⟨.llc, 14, 3⟩, ⟨.ethernet, 14, 14⟩, ⟨.llc, 28, 3⟩, ⟨.udp, 20, 8⟩] := by
    decide +kernel
  exact ⟨rfl, holds, table, holds.spans_eq.symm.trans table⟩

end FrameSpans
