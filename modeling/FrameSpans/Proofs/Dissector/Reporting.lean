import FrameSpans.Proofs.Dissector.Carried
import FrameSpans.Proofs.Dissector.Walk

/-!
# Protocols that are reported

The set of protocols of a dissector and its table tell the same story: behind a dissection the set
holds the ids of the headers in the table, and besides them what the policy starts with
(`Dissector.bitmask_of_capture`). A span that was refused is not in it, and neither is an option or
an extension header, even one whose ordinal is that of a protocol.

Two things happen to the pair of them. A span that is recorded goes into both. A record that is
widened is that of a header which was recorded before, and it keeps its id, so the set is still
right. A property of the pair that both of them keep is a `Reporting`, and every walk carries it
through, whatever the octets and the handlers (`Reporting.carried`).
-/

namespace FrameSpans

/-! ## Sets and tables -/

namespace Bitmask

/-- The set with the id of a recorded span added, if it is that of a header. -/
def report (mask : Bitmask) (id : ProtocolId) : Bitmask :=
  if id.kind = .protocol then mask.insert id else mask

/-- The set with the ids of the headers among some spans added. -/
def reportAll (mask : Bitmask) (spans : List Span) : Bitmask :=
  spans.foldl (fun mask span => mask.report span.id) mask

/-- A span behind others is reported after them. -/
theorem reportAll_concat (mask : Bitmask) (spans : List Span) (span : Span) :
    mask.reportAll (spans ++ [span]) = (mask.reportAll spans).report span.id := by
  rw [reportAll, List.foldl_append]
  rfl

/-- What a set reports of spans goes by their ids, so a span may be exchanged for one with the same
id. -/
theorem reportAll_set (mask : Bitmask) {spans : List Span} {index : Nat} {base span : Span}
    (found : spans[index]? = some base) (same : span.id = base.id) :
    mask.reportAll (spans.set index span) = mask.reportAll spans := by
  have ids (spans : List Span) : mask.reportAll spans = (spans.map (·.id)).foldl report mask :=
    (List.foldl_map ..).symm
  have place : (spans.map (·.id))[index]? = some span.id := by
    rw [List.getElem?_map, found, same]
    rfl
  obtain ⟨occupied, stands⟩ := List.getElem?_eq_some_iff.mp place
  rw [ids, ids, List.map_set, ← stands, List.set_getElem_self]

/-- The ordinals of a set that reports one more span. -/
theorem contains_report (mask : Bitmask) (added id : ProtocolId) :
    (mask.report added).contains id = true ↔
      mask.contains id = true ∨ added.kind = .protocol ∧ added.ordinal = id.ordinal := by
  unfold report
  split
  · next header => rw [contains_insert, and_iff_right header]
  · next other => rw [or_iff_left fun both => other both.1]

/-- A set with the headers among some spans added contains their ordinals, and what it contained
before. -/
theorem contains_reportAll (mask : Bitmask) (spans : List Span) (id : ProtocolId) :
    (mask.reportAll spans).contains id = true ↔ mask.contains id = true ∨
      ∃ span ∈ spans, span.id.kind = .protocol ∧ span.id.ordinal = id.ordinal := by
  induction spans generalizing mask with
  | nil => simp [reportAll]
  | cons span rest ih =>
    show ((mask.report span.id).reportAll rest).contains id = true ↔ _
    simp only [ih, contains_report, List.mem_cons, exists_eq_or_imp, or_assoc]

end Bitmask

/-- A property of a set of protocols and a table that holds on when a span is recorded, and when a
record is exchanged for one with the same id. -/
structure Reporting (P : Bitmask → List Span → Prop) : Prop where
  /-- A span is recorded, and the set reports its id. -/
  record : ∀ {mask spans} (span : Span), P mask spans → P (mask.report span.id) (spans ++ [span])
  /-- A record is exchanged for one with the same id, and the set stays as it is. -/
  widen : ∀ {mask spans index base} (span : Span), spans[index]? = some base → span.id = base.id →
    P mask spans → P mask (spans.set index span)

/-- The property holds of the set and the table of a dissector. -/
def Dissector.Reports (P : Bitmask → List Span → Prop) (d : Dissector) : Prop :=
  P d.scalars.bitmask d.spans

/-! ## The walk -/

namespace Dissector

/-- A recorded span has its id reported. -/
theorem bitmask_of_offer {d recorded : Dissector} {span : Span} (h : d.offer span = .ok recorded) :
    recorded.scalars.bitmask = d.scalars.bitmask.report span.id := by
  obtain ⟨-, -, word, -, rfl⟩ := of_offer h
  rfl

end Dissector

namespace Reporting

variable {P : Bitmask → List Span → Prop} (h : Reporting P)

include h

/-- Every walk carries the property through. -/
theorem carried : Dissector.Carried fun d d' => d.Reports P → d'.Reports P where
  refl _ := id
  trans first second := second ∘ first
  offer {d recorded span} offered holds := by
    have more := h.record span holds
    rw [← Dissector.bitmask_of_offer offered, ← Dissector.spans_of_offer offered] at more
    exact more
  fragment _ _ := id
  framing d type holds := by
    unfold Dissector.setFraming
    split
    · exact holds
    · exact holds
  widen {d marked widened base length} stands keeps exchanged holds := by
    -- The record that is widened is that of the header, and keeps its id.
    have found : marked.spans[d.recordCount]? = some base := by
      obtain ⟨rest, appended⟩ := stands
      rw [← appended, List.append_assoc, ← d.length_spans,
        List.getElem?_append_right (Nat.le_refl _), Nat.sub_self]
      rfl
    have exchange := h.widen { base with length } found rfl (keeps holds)
    rw [← Dissector.spans_of_widen exchanged] at exchange
    obtain ⟨-, -, word, -, rfl⟩ := Dissector.of_widen exchanged
    exact exchange
  nested inner := inner

end Reporting

/-! ## Captures -/

namespace Dissector

/-- A set that holds what it held at first, and the ids of the headers in a table. -/
theorem reporting_reportAll (first : Bitmask) :
    Reporting fun mask spans => mask = first.reportAll spans where
  record span holds := by
    rw [holds, Bitmask.reportAll_concat]
  widen span found same holds := by
    rw [holds, Bitmask.reportAll_set _ found same]

/-- Whatever the policy, the capture and the handlers, the set of protocols behind a dissection is
the default of the policy with the ids of the headers in the table added: an ordinal is reported if
the default holds it, or it is that of a recorded header. -/
theorem bitmask_of_capture (d : Dissector) (buffer : Octets) {captureLength wireLength : Nat}
    (timestamp : UInt64) (held : captureLength ≤ buffer.size)
    (wired : captureLength ≤ wireLength) :
    ∃ traced, d.reset.dissect buffer captureLength wireLength timestamp = .ok traced ∧
      traced.1.scalars.bitmask = d.config.defaultBitmask.reportAll traced.1.spans ∧
      ∀ id : ProtocolId, traced.1.scalars.bitmask.contains id = true ↔
        d.config.defaultBitmask.contains id = true ∨
          ∃ span ∈ traced.1.spans, span.id.kind = .protocol ∧ span.id.ordinal = id.ordinal := by
  refine ⟨_, dissect_held held wired timestamp, ?_⟩
  rw [Outcome.dissector_closed]
  have begun : (d.reset.started captureLength wireLength timestamp).Reports
      fun mask spans => mask = d.config.defaultBitmask.reportAll spans := rfl
  have reported := (reporting_reportAll d.config.defaultBitmask).carried.dissectCapture _
    (buffer.extract 0 captureLength) begun
  refine ⟨reported, fun id => ?_⟩
  rw [reported, Bitmask.contains_reportAll]

/-- A TCP header with a timestamp option, whose ordinal is that of UDP. The policy starts with an
ordinal of its own. -/
theorem bitmask_of_tcp_options :
    let buffer : Octets :=
      #[0x45, 0, 0, 52, 0, 0, 0, 0, 64, 6, 0, 0, 10, 0, 0, 1, 10, 0, 0, 2,
        4, 0, 0, 80, 0, 0, 0, 1, 0, 0, 0, 1, 0x80, 0x10, 4, 0, 0, 0, 0, 0,
        1, 1, 8, 10, 0, 0, 0, 1, 0, 0, 0, 2]
    let d : Dissector :=
      { config := { link := .rawIp, defaultBitmask := Bitmask.empty.insert (.extension 15) } }
    52 ≤ buffer.size ∧ 52 ≤ 60 ∧
      ∃ traced, d.reset.dissect buffer 52 60 0 = .ok traced ∧
        traced.1.scalars.bitmask = d.config.defaultBitmask.reportAll traced.1.spans ∧
        (∀ id : ProtocolId, traced.1.scalars.bitmask.contains id = true ↔
          d.config.defaultBitmask.contains id = true ∨
            ∃ span ∈ traced.1.spans, span.id.kind = .protocol ∧ span.id.ordinal = id.ordinal) ∧
        traced.1.spans.map (·.id) = [.ipv4, .tcp, .ofClass .tcpOption 1, .ofClass .tcpOption 1,
          .ofClass .tcpOption 8] ∧
        traced.1.scalars.bitmask = ⟨0x80000090⟩ := by
  intro buffer d
  have held : 52 ≤ buffer.size := by decide
  obtain ⟨traced, dissected, reported, members⟩ :=
    bitmask_of_capture d buffer 0 held (by decide : 52 ≤ 60)
  have told : (d.reset.dissect buffer 52 60 0).toOption.map
      (fun traced => (traced.1.spans.map (·.id), traced.1.scalars.bitmask)) =
        some ([.ipv4, .tcp, .ofClass .tcpOption 1, .ofClass .tcpOption 1, .ofClass .tcpOption 8],
          ⟨0x80000090⟩) := by
    decide +kernel
  rw [dissected] at told
  obtain ⟨ids, bits⟩ := Prod.mk.inj (Option.some.inj told)
  exact ⟨held, by decide, traced, dissected, reported, members, ids, bits⟩

end Dissector

end FrameSpans
