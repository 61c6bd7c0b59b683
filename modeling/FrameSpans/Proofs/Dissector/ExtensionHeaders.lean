import FrameSpans.Proofs.Dissector.Growth
import FrameSpans.Proofs.Dissector.Steps
import FrameSpans.Proofs.Dissector.Truncation
import FrameSpans.Proofs.Reading.ExtensionHeaders

/-!
# Recording a chain of extension headers

If the table has room and the policy asks for extension headers, then an IPv6 packet leaves the
spans of its chain: the header with the whole chain, and behind it the span of each extension header
with the id of its type, fragment headers apart. What stands behind the chain is interpreted once,
as the type says that the last extension header announced (`Dissector.chain_recorded`).

Room is counted down as spans are recorded (`HasRoom.of_offer`), so a list of marks that the table
admits is recorded completely (`spans_takeMarks_of_room`), and the record of the header is still the
one behind the old spans when the chain has been recorded (`spans_takeChained_of_room`).
-/

namespace FrameSpans.Dissector

variable {d : Dissector}

/-! ## Marks that find room -/

/-- Accepting a span takes the room of one. -/
theorem HasRoom.of_offer {count : Nat} (h : d.HasRoom (count + 1)) {recorded : Dissector}
    {span : Span} (offered : d.offer span = .ok recorded) : recorded.HasRoom count := by
  have stored := Evolves.store offered
  have one : recorded.recordCount = d.recordCount + 1 := stored.recordCount_eq
  intro capacity bounded
  have enough := h capacity (stored.keeps.capacity_eq.symm.trans bounded)
  omega

/-- A mark is recorded if it is that of an option, or it sets the flags of the packet. -/
def Asked (d : Dissector) : Mark → Prop
  | .option span => d.config.recordsOption span.id = true ∧ d.Admits span
  | .fragment _ => True

/-- What is asked for goes by the policy and the capture. -/
theorem Asked.evolve {d' : Dissector} {mark : Mark} (h : d.Asked mark) (keeps : d.Keeps d') :
    d'.Asked mark := by
  cases mark with
  | fragment => trivial
  | option span =>
    obtain ⟨policy, within, offset, length⟩ := h
    refine ⟨?_, ?_, offset, length⟩
    · rw [keeps.config_eq]
      exact policy
    · rw [keeps.captureLength_eq]
      exact within

/-- Marks that are asked for and find room are all recorded. -/
theorem spans_takeMarks_of_room {marks : List Mark} (asked : ∀ mark ∈ marks, d.Asked mark)
    (room : d.HasRoom (marks.filterMap Mark.span?).length) :
    (d.takeMarks marks).1.spans = d.spans ++ marks.filterMap Mark.span? := by
  -- Induction on the marks; each option takes its room and leaves enough for the others.
  induction marks generalizing d with
  | nil => exact (List.append_nil _).symm
  | cons mark rest ih =>
    obtain ⟨first, others⟩ := List.forall_mem_cons.mp asked
    show ((d.takeMark mark).1.takeMarks rest).1.spans = _
    cases mark with
    | fragment isLast =>
      have still := (Evolves.fragment d isLast).keeps
      exact ih (fun mark member => (others mark member).evolve still) room
    | option span =>
      obtain ⟨policy, admits⟩ := first
      obtain ⟨recorded, offered⟩ := offer_of_admits room.isFull_eq admits
      have taken : (d.takeMark (.option span)).1 = recorded := by
        rw [takeMark, if_pos policy, addSpan, offered]
      have still : ∀ mark ∈ rest, recorded.Asked mark := fun mark member =>
        (others mark member).evolve (Evolves.store offered).keeps
      rw [taken]
      calc (recorded.takeMarks rest).1.spans
          = recorded.spans ++ rest.filterMap Mark.span? := ih still (room.of_offer offered)
        _ = d.spans ++ [span] ++ rest.filterMap Mark.span? := by rw [spans_of_offer offered]
        _ = d.spans ++ span :: rest.filterMap Mark.span? := List.append_assoc ..

/-- A header whose chain is asked for and finds room is recorded with the whole chain, and the marks
of the chain are recorded behind it. -/
theorem spans_takeChained_of_room {id : ProtocolId} {offset size length : Nat} {marks : List Mark}
    (whole : d.Admits ⟨id, offset, size + length⟩) (asked : ∀ mark ∈ marks, d.Asked mark)
    (room : d.HasRoom ((marks.filterMap Mark.span?).length + 1)) :
    (d.takeChained ⟨id, offset, size⟩ marks length).1.spans =
      d.spans ++ ⟨id, offset, size + length⟩ :: marks.filterMap Mark.span? := by
  have base : d.Admits ⟨id, offset, size⟩ := by
    obtain ⟨within, near, short⟩ := whole
    dsimp only at within near short
    exact ⟨by dsimp only; omega, near, by dsimp only; omega⟩
  obtain ⟨recorded, offered⟩ := offer_of_admits room.isFull_eq base
  have stored := (Evolves.store offered).keeps
  have marked : (recorded.takeMarks marks).1.spans =
      d.spans ++ ⟨id, offset, size⟩ :: marks.filterMap Mark.span? := by
    rw [spans_takeMarks_of_room (fun mark member => (asked mark member).evolve stored)
      (room.of_offer offered), spans_of_offer offered, List.append_assoc]
    rfl
  unfold takeChained
  rw [offered]
  dsimp only
  split
  · next none =>
    -- A header without a chain is already as long as it should be.
    subst none
    exact marked
  · have keeps := (recorded.evolves_takeMarks marks).keeps
    have admits : (recorded.takeMarks marks).1.Admits ⟨id, offset, size + length⟩ := by
      obtain ⟨within, near, short⟩ := whole
      refine ⟨?_, near, short⟩
      rw [keeps.captureLength_eq, stored.captureLength_eq]
      exact within
    have occupied : d.recordCount < (recorded.takeMarks marks).1.recordCount := by
      rw [← length_spans, ← length_spans, marked, List.length_append, List.length_cons]
      omega
    obtain ⟨last, widened⟩ := widen_of_admits occupied admits
    rw [updateSpan, widened]
    show last.spans = _
    rw [spans_of_widen widened, marked, ← length_spans, Span.set_length_append]

/-! ## Packets -/

open ExtensionLink (total FirstFragment)

/-- The marks that a chain leaves are asked for, if its extension headers are. -/
theorem asked_of_covers {data : Octets} {position : Nat} {type last : IpProtocol}
    {links : List ExtensionLink} (listed : Chain.Listed data position type links last)
    {chain : Chain} {isFirst : Bool} (covers : chain.Covers data links last isFirst)
    (short : total links ≤ Span.maxLength) (near : position + total links ≤ Span.maxOffset)
    (held : data.size ≤ d.captureLength)
    (policy : ∀ link ∈ links, link.type ≠ .ipv6Frag → d.config.recordsOption link.id = true) :
    ∀ mark ∈ chain.marks, d.Asked mark := by
  intro mark member
  cases mark with
  | fragment => trivial
  | option span =>
    have found : span ∈ ExtensionLink.spans links := by
      rw [← covers.spans_eq]
      exact List.mem_filterMap.mpr ⟨.option span, member, rfl⟩
    obtain ⟨link, among, rfl⟩ := List.mem_map.mp found
    obtain ⟨linked, other⟩ := List.mem_filter.mp among
    obtain ⟨captured, within, least⟩ := listed.bounds link linked
    exact ⟨policy link linked (of_decide_eq_true other), Nat.le_trans captured held,
      by dsimp only [ExtensionLink.span]; omega, Nat.le_trans least short⟩

/-- An IPv6 packet whose extension headers were captured, with room in the table for the packet and
for each of them, and a policy that asks for them: the record of the packet covers its header and
the whole chain, and behind it stand the extension headers in order, fragment headers apart, before
anything that the payload adds. The payload is interpreted as what the chain announces last or not
at all, and if no fragment header tells an offset, it is interpreted once. -/
theorem chain_recorded (levels : Nat) {data : Octets} {offset : Nat} {next : UInt8}
    {last : IpProtocol} {links : List ExtensionLink}
    (captured : offset + Ipv6Header.size ≤ data.size)
    (type : data.octet? (offset + 6) = some next)
    (listed : Chain.Listed data (offset + Ipv6Header.size) (.ofValue next) links last)
    (short : Ipv6Header.size + total links ≤ Span.maxLength)
    (near : offset + Ipv6Header.size + total links ≤ Span.maxOffset)
    (held : data.size ≤ d.captureLength)
    (policy : ∀ link ∈ links, link.type ≠ .ipv6Frag → d.config.recordsOption link.id = true)
    (room : d.HasRoom ((ExtensionLink.spans links).length + 1)) :
    let behind := offset + Ipv6Header.size + total links
    let payload := Reading.ipPayload data behind last .ipv6
    let outcome := follow (descend levels) data (Reading.ipv6 data offset) d
    ∃ (chained : Dissector) (events : List Event),
      chained.spans = d.spans ++
        ⟨.ipv6, offset, Ipv6Header.size + total links⟩ :: ExtensionLink.spans links ∧
      chained.spans <+: outcome.dissector.spans ∧
      (∀ event ∈ events, event.OfChain) ∧
      (outcome = ⟨chained, events, none⟩ ∨
        outcome = (follow (descend levels) data payload chained).after events) ∧
      (FirstFragment data links →
        outcome = (follow (descend levels) data payload chained).after events ∧
        (Reading.ipv6 data offset).steps.filter Step.isPayload =
          [.payload last behind .ipv6]) := by
  intro behind payload outcome
  have reach : behind < offsetBound := by
    rw [Span.maxOffset] at near
    rw [offsetBound]
    omega
  obtain ⟨chain, covers, reads⟩ := Reading.ipv6_of_listed captured type listed reach
  -- The chain is one step of the reading, and the payload is what follows that step.
  let step : Step := .chained ⟨.ipv6, offset, Ipv6Header.size⟩ chain.marks (total links)
  let rest := if chain.isFirstFragment then payload else Reading.complete
  have taken : d.takeAll [step] =
      d.takeChained ⟨.ipv6, offset, Ipv6Header.size⟩ chain.marks (total links) :=
    Prod.ext rfl (List.append_nil _)
  have goes : outcome = (follow (descend levels) data rest (d.takeAll [step]).1).after
      (d.takeAll [step]).2 := by
    show follow _ data (Reading.ipv6 data offset) d = _
    rw [reads, follow_after]
  have whole : d.Admits ⟨.ipv6, offset, Ipv6Header.size + total links⟩ := by
    have inside := listed.end_le captured
    exact ⟨by dsimp only; omega, by dsimp only; omega, short⟩
  have asked := asked_of_covers listed covers (by omega) near held policy
  refine ⟨(d.takeAll [step]).1, (d.takeAll [step]).2, ?_, ?_, ?_, ?_, fun first => ⟨?_, ?_⟩⟩
  · rw [taken, spans_takeChained_of_room whole asked (covers.spans_eq.symm ▸ room), covers.spans_eq]
  · rw [goes]
    exact carried_prefix.follow (growing_descend levels) data rest (d.takeAll [step]).1
  · rw [taken]
    exact d.ofChain_takeChained _ _ _
  · rw [goes]
    cases isFirst : chain.isFirstFragment with
    | true => exact .inr (by simp only [rest, isFirst, if_true])
    | false =>
      refine .inl ?_
      simp only [rest, isFirst, Bool.false_eq_true, if_false]
      exact congrArg (Outcome.mk _ · none) (List.append_nil _)
  · rw [goes]
    simp only [rest, covers.first first rfl, if_true]
  · rw [reads, covers.first first rfl, if_pos rfl]
    exact Reading.payloads_ipPayload data behind last .ipv6

/-- Options for each hop, a fragment header of a first fragment and destination options in front of
a UDP header: the payload is reached behind all of them. -/
theorem chain_recorded_udp :
    let data : Octets :=
      #[0x60, 0, 0, 0, 0, 40, 0, 64, 0xfe, 0x80, 0, 0, 0, 0, 0, 0, 0, 0, 0, 0, 0, 0, 0, 1,
        0xfe, 0x80, 0, 0, 0, 0, 0, 0, 0, 0, 0, 0, 0, 0, 0, 2, 0x2c, 0, 1, 4, 0, 0, 0, 0,
        0x3c, 0, 0, 1, 0, 0, 0, 7, 0x11, 1, 1, 12, 0, 0, 0, 0, 0, 0, 0, 0, 0, 0, 0, 0,
        0, 53, 0, 53, 0, 8, 0, 0]
    let d : Dissector := { captureLength := 80, wireLength := 80 }
    let links : List ExtensionLink :=
      [⟨.hopByHop, .ofClass .ipv6Extension 0, 40, 8⟩,
        ⟨.ipv6Frag, .ofClass .ipv6Extension 2, 48, 8⟩,
        ⟨.ipv6Opts, .ofClass .ipv6Extension 3, 56, 16⟩]
    let recorded : List Span :=
      [⟨.ipv6, 0, 72⟩, ⟨.ofClass .ipv6Extension 0, 40, 8⟩, ⟨.ofClass .ipv6Extension 3, 56, 16⟩]
    let outcome := follow (descend 4) data (Reading.ipv6 data 0) d
    Chain.Listed data 40 .hopByHop links .udp ∧ FirstFragment data links ∧
      recorded <+: outcome.dissector.spans ∧
      (Reading.ipv6 data 0).steps.filter Step.isPayload = [.payload .udp 72 .ipv6] := by
  intro data d links recorded outcome
  have hopByHop : data.octet? 40 = some 0x2c ∧ data.octet? 41 = some 0 := by decide
  have fragment : data.octet? 48 = some 0x3c ∧ data.octet? 49 = some 0 := by decide
  have options : data.octet? 56 = some 0x11 ∧ data.octet? 57 = some 1 := by decide
  have listed : Chain.Listed data 40 .hopByHop links .udp :=
    .behind rfl hopByHop.1 hopByHop.2 (by decide) <|
      .behind rfl fragment.1 fragment.2 (by decide) <|
      .behind rfl options.1 options.2 (by decide) <| .ends rfl
  have fields : FragmentFields.read? data 48 = some ⟨0, true⟩ := by decide
  have first : FirstFragment data links := by
    refine List.forall_mem_cons.mpr ⟨nofun, List.forall_mem_cons.mpr ⟨fun _ told read => ?_,
      List.forall_mem_singleton.mpr nofun⟩⟩
    cases fields.symm.trans read
    rfl
  have room : d.HasRoom 3 := by
    rintro capacity ⟨⟩
    decide
  obtain ⟨chained, events, spans, grown, -, -, payload⟩ :=
    chain_recorded (d := d) 4 (by decide : 0 + Ipv6Header.size ≤ data.size)
      (by decide : data.octet? (0 + 6) = some 0) listed (by decide) (by decide)
      (by decide : data.size ≤ d.captureLength) (by decide) room
  have table : chained.spans = recorded := spans
  exact ⟨listed, first, table ▸ grown, (payload first).2⟩

end FrameSpans.Dissector
