import FrameSpans.Proofs.Dissector.Reporting
import FrameSpans.Proofs.Session.Reachable
import Mathlib.Data.List.Induction

/-!
# Protocols that a session reports

Every header in the table of a session is reported in its set of protocols, with one exception
(`Session.protocols_reported`). The owner of a dissector may exchange a record for one with another
id, and exchanging a record leaves the set as it is, so nothing reports the new id
(`Session.exchanged_protocol_unreported`). An exchange that keeps the id of a record, like those of a
dissection, does no harm.
-/

namespace FrameSpans

/-! ## Headers in the table -/

/-- Every header in a table is reported, except perhaps those of some ids at some places. -/
def ReportedUnless (except : Nat → ProtocolId → Prop) (mask : Bitmask) (spans : List Span) : Prop :=
  ∀ index span, spans[index]? = some span → span.id.kind = .protocol →
    mask.contains span.id = true ∨ except index span.id

/-- Whatever is excepted, recording a span and exchanging one for another with the same id leave the
headers of a table reported. -/
theorem reporting_reportedUnless (except : Nat → ProtocolId → Prop) :
    Reporting (ReportedUnless except) where
  record {mask spans} added holds index span found header := by
    rcases Nat.lt_or_ge index spans.length with early | late
    · rw [List.getElem?_append_left early] at found
      refine (holds index span found header).imp_left fun reported => ?_
      exact (Bitmask.contains_report mask added.id span.id).mpr (.inl reported)
    · rw [List.getElem?_append_right late] at found
      obtain rfl := List.mem_singleton.mp (List.mem_of_getElem? found)
      exact .inl ((Bitmask.contains_report mask _ _).mpr (.inr ⟨header, rfl⟩))
  widen {mask spans index base} span stood same holds place other found header := by
    by_cases here : index = place
    · subst here
      obtain ⟨occupied, -⟩ := List.getElem?_eq_some_iff.mp stood
      rw [List.getElem?_set_self occupied] at found
      cases found
      rw [same] at header ⊢
      exact holds index base stood header
    · rw [List.getElem?_set_ne here] at found
      exact holds place other found header

/-! ## Operations -/

namespace Dissector

variable {except : Nat → ProtocolId → Prop} {d : Dissector}

/-- An empty table holds no header that is not reported. -/
theorem reports_of_empty (empty : d.spans = []) : d.Reports (ReportedUnless except) := by
  intro index span found
  rw [empty] at found
  cases found

/-- Exchanging a record leaves the headers of a table reported, if a new id is excepted. -/
theorem reports_updateSpan (h : d.Reports (ReportedUnless except)) {index : Nat} {span : Span}
    (renamed : d.refuses (.updateSpan index span) = false →
      ∀ base, d.spans[index]? = some base → base.id ≠ span.id → except index span.id) :
    (d.updateSpan index span).1.Reports (ReportedUnless except) := by
  unfold updateSpan
  split
  · next widened exchanged =>
    have accepted : d.refuses (.updateSpan index span) = false := by
      rw [refuses, exchanged]
      rfl
    have table := spans_of_widen exchanged
    obtain ⟨occupied, -, word, -, rfl⟩ := of_widen exchanged
    rw [← d.length_spans] at occupied
    intro place other found header
    by_cases here : index = place
    · subst here
      rw [table, List.getElem?_set_self occupied] at found
      cases found
      have stood := List.getElem?_eq_getElem occupied
      by_cases same : (d.spans[index]).id = span.id
      · rw [← same] at header ⊢
        exact h index _ stood header
      · exact .inr (renamed accepted _ stood same)
    · rw [table, List.getElem?_set_ne here] at found
      exact h place other found header
  · exact h

/-- An operation leaves the headers of a table reported, if an id that it brings into the place of
another one is excepted. -/
theorem reports_perform (h : d.Reports (ReportedUnless except)) {operation : Operation}
    (renamed : ∀ index span, operation = .updateSpan index span →
      d.refuses (.updateSpan index span) = false →
        ∀ base, d.spans[index]? = some base → base.id ≠ span.id → except index span.id) :
    (d.perform operation).1.Reports (ReportedUnless except) := by
  have reporting := reporting_reportedUnless except
  cases operation with
  | reset => exact reports_of_empty rfl
  | setConfig | setHash | setRxPort | setTxPort | setTxFlags => exact h
  | reportAllProtocols => exact fun _ span _ _ => .inl (Bitmask.contains_all span.id)
  | addSpan span => exact reporting.carried.addSpan d span h
  | updateSpan index span => exact reports_updateSpan h (renamed index span rfl)
  | dissectInner inner data offset => exact reporting.carried.dissectInner d inner data offset h
  | dissect buffer captureLength wireLength timestamp =>
    unfold perform
    dsimp only
    split
    · next traced dissected =>
      obtain ⟨-, -, rfl⟩ := of_dissect dissected
      rw [Outcome.dissector_closed]
      have begun : (d.started captureLength wireLength timestamp).Reports
          (ReportedUnless except) := h
      exact reporting.carried.dissectCapture _ (buffer.extract 0 captureLength) begun
    · exact h

end Dissector

/-! ## Runs -/

namespace Session

/-- During these operations, and not before the last reset, the owner exchanged the record at an
index for one with this id, where a record with another id stood. -/
def Exchanged (session : Session) (operations : List Operation) (index : Nat) (id : ProtocolId) :
    Prop :=
  ∃ front span rear, operations = front ++ .updateSpan index span :: rear ∧ .reset ∉ rear ∧
    span.id = id ∧ (session.run front).dissector.refuses (.updateSpan index span) = false ∧
    ∃ base, (session.run front).dissector.spans[index]? = some base ∧ base.id ≠ id

/-- The last operation of a run is performed behind the others. -/
theorem run_concat (session : Session) (operations : List Operation) (operation : Operation) :
    session.run (operations ++ [operation]) = (session.run operations).perform operation := by
  rw [run, List.foldl_append]
  rfl

/-- What was exchanged stays exchanged until the next reset. -/
theorem Exchanged.concat {session : Session} {operations : List Operation} {index : Nat}
    {id : ProtocolId} (h : session.Exchanged operations index id) {operation : Operation}
    (stays : operation ≠ .reset) : session.Exchanged (operations ++ [operation]) index id := by
  obtain ⟨front, span, rear, rfl, since, named, exchanged⟩ := h
  refine ⟨front, span, rear ++ [operation], ?_, ?_, named, exchanged⟩
  · rw [List.append_assoc, List.cons_append]
  · rw [List.mem_append, List.mem_singleton, not_or]
    exact ⟨since, stays.symm⟩

/-- At all times the headers in the table of a session are reported, except those that the owner
brought into the place of others. -/
theorem reports_run {session : Session} (empty : session.dissector.spans = [])
    (operations : List Operation) :
    (session.run operations).dissector.Reports (ReportedUnless (session.Exchanged operations)) := by
  -- Induction on the last operation, as the exception is about all that was performed before.
  induction operations using List.reverseRecOn with
  | nil => exact Dissector.reports_of_empty empty
  | append_singleton operations operation ih =>
    rw [run_concat, dissector_perform]
    by_cases reset : operation = .reset
    · rw [reset]
      exact Dissector.reports_of_empty rfl
    · have still : (session.run operations).dissector.Reports
          (ReportedUnless (session.Exchanged (operations ++ [operation]))) :=
        fun index span found header => (ih index span found header).imp_right (·.concat reset)
      refine Dissector.reports_perform still ?_
      rintro index span rfl accepted base stood other
      exact ⟨operations, span, [], rfl, List.not_mem_nil, rfl, accepted, base, stood, other⟩

/-- Whatever the policy, the handlers and the operations, every header in the table of a session is
reported in its set of protocols, unless the owner brought it into the place of a record with
another id. -/
theorem protocols_reported (config : Config) (registry : Option Registry)
    (operations : List Operation) {index : Nat} {span : Span}
    (found : ((start config registry).run operations).dissector.spans[index]? = some span)
    (header : span.id.kind = .protocol) :
    ((start config registry).run operations).dissector.scalars.bitmask.contains span.id = true ∨
      (start config registry).Exchanged operations index span.id :=
  reports_run rfl operations index span found header

/-- The owner has the record of a UDP header cover two more octets, and the header stays reported.
The record before it is exchanged for one with another id. -/
theorem protocols_reported_udp :
    let buffer : Octets :=
      #[0x45, 0, 0, 30, 0, 0, 0, 0, 64, 17, 0, 0, 10, 0, 0, 1, 10, 0, 0, 2,
        0, 53, 0, 53, 0, 10, 0, 0, 1, 2]
    let operations : List Operation :=
      [.dissect buffer 30 30 1, .updateSpan 1 ⟨.udp, 20, 10⟩, .updateSpan 0 ⟨.sctp, 0, 20⟩]
    let span : Span := ⟨.udp, 20, 10⟩
    ((start { link := .rawIp } none).run operations).dissector.spans[1]? = some span ∧
      span.id.kind = .protocol ∧
      (((start { link := .rawIp } none).run operations).dissector.scalars.bitmask.contains span.id =
          true ∨ (start { link := .rawIp } none).Exchanged operations 1 span.id) := by
  intro buffer operations span
  have found : ((start { link := .rawIp } none).run operations).dissector.spans[1]? = some span := by
    decide +kernel
  exact ⟨found, rfl, protocols_reported { link := .rawIp } none operations found rfl⟩

/-- The owner exchanges the record of a UDP header for one of an SCTP header. The table holds an SCTP
header, and the set of protocols does not report it. -/
theorem exchanged_protocol_unreported :
    let buffer : Octets :=
      #[0x45, 0, 0, 28, 0, 0, 0, 0, 64, 17, 0, 0, 10, 0, 0, 1, 10, 0, 0, 2,
        0, 53, 0, 53, 0, 8, 0, 0]
    let session := (start { link := .rawIp } none).run
      [.dissect buffer 28 28 0, .updateSpan 1 ⟨.sctp, 20, 8⟩]
    session.dissector.spans = [⟨.ipv4, 0, 20⟩, ⟨.sctp, 20, 8⟩] ∧
      session.dissector.scalars.bitmask.contains .sctp = false := by
  decide +kernel

end Session

end FrameSpans
