import FrameSpans.Proofs.Dissector.Safety
import FrameSpans.Proofs.Dissector.Steps

/-!
# Later fragments of IPv6 packets

A fragment of a packet that is not the first one carries octets from the middle of a payload, and no
headers. What the walk of an IPv6 packet makes of the header of such a fragment depends on the type
of what follows it.

If no extension header follows, it is the end of the packet: the flags are those of the fragment,
the record of the IPv6 header is widened up to it, and nothing else happens (`later_fragment_ends`).

If one does, the walk goes on into the octets of the fragment. It records them as extension headers,
and a fragment header among them whose fragment offset is zero overwrites the flags and leads to a
payload (`later_fragment_overwritten`). Without such a header the payload stays untouched, which is
the other half of `later_fragment_ends`.
-/

namespace FrameSpans

/-! ## Chains with the header of a later fragment -/

/-- An event about the flags of the packet, or about a span in front of a position. -/
def Event.InFront (position : Nat) : Event → Prop
  | .stored span | .refused span _ => span.offset + span.length ≤ position
  | .fragment _ => True
  | _ => False

namespace Dissector

/-- Marks leave events in front of the position that they end in front of. -/
theorem inFront_takeMarks (d : Dissector) {first last : Nat} {marks : List Mark}
    (between : ∀ mark ∈ marks, mark.Between first last) :
    ∀ event ∈ (d.takeMarks marks).2, event.InFront last := by
  refine d.forall_events_takeMarks (fun span member => ?_) fun _ => trivial
  have ends := (between _ member).2
  exact ⟨ends, fun _ => ends⟩

/-- The flags of a fragment behind other marks. -/
theorem takeMarks_concat_fragment (d : Dissector) (marks : List Mark) (isLast : Bool) :
    d.takeMarks (marks ++ [.fragment isLast]) =
      ((d.takeMarks marks).1.setFragment isLast,
        (d.takeMarks marks).2 ++ [.fragment isLast]) := by
  rw [takeMarks_append]
  rfl

/-- A chain whose last mark is that of a fragment leaves the flags of that fragment. Behind them
nothing happens but that the header is to be widened. -/
theorem takeChained_fragment (d : Dissector) (base : Span) {marks : List Mark} {position : Nat}
    (isLast : Bool) (length : Nat) (fixed : base.offset + base.length ≤ position)
    (between : ∀ mark ∈ marks, mark.Between (base.offset + base.length) position) :
    let taken := d.takeChained base (marks ++ [.fragment isLast]) length
    (∃ before after, taken.2 = before ++ .fragment isLast :: after ∧
      (∀ event ∈ before, event.InFront position) ∧
      ∀ event ∈ after,
        (∃ index, event = .widened index { base with length := base.length + length }) ∨
        ∃ reason, event = .refused { base with length := base.length + length } reason) ∧
    taken.1.scalars.isFragment = true ∧ taken.1.scalars.isLastFragment = isLast := by
  unfold takeChained
  cases offered : d.offer base with
  | error reason =>
    dsimp only
    rw [takeMarks_concat_fragment]
    refine ⟨⟨.refused base reason :: (d.takeMarks marks).2, [], rfl, ?_, nofun⟩, rfl, rfl⟩
    exact List.forall_mem_cons.mpr ⟨fixed, d.inFront_takeMarks between⟩
  | ok recorded =>
    dsimp only
    rw [takeMarks_concat_fragment]
    have before : ∀ event ∈ .stored base :: (recorded.takeMarks marks).2, event.InFront position :=
      List.forall_mem_cons.mpr ⟨fixed, recorded.inFront_takeMarks between⟩
    by_cases empty : length = 0
    · rw [if_pos empty]
      exact ⟨⟨_, [], List.append_nil _, before, nofun⟩, rfl, rfl⟩
    · rw [if_neg empty]
      -- The widened record is the only thing behind the flags, and it leaves them alone.
      refine ⟨⟨_, _, List.append_assoc (_ :: _) [Event.fragment isLast] _, before,
        fun event member => ?_⟩, ?_, ?_⟩
      · rcases events_updateSpan _ _ _ with widened | ⟨reason, refused⟩
        · rw [widened] at member
          exact .inl ⟨_, List.mem_singleton.mp member⟩
        · rw [refused] at member
          exact .inr ⟨reason, List.mem_singleton.mp member⟩
      · rw [scalars_updateSpan]
        rfl
      · rw [scalars_updateSpan]
        rfl

end Dissector

/-! ## Readings that lead nowhere -/

/-- A reading of headers with their chains alone, which leads nowhere: it is complete or stops. -/
structure Reading.IsLeaf (reading : Reading) : Prop where
  /-- Each step is a header with its chain. -/
  steps : ∀ step ∈ reading.steps, ∃ base marks length, step = .chained base marks length
  /-- Nothing follows. -/
  ending : reading.ending = .complete ∨ ∃ stop, reading.ending = .stopped stop

namespace Reading.IsLeaf

/-- A reading that finds nothing more to read leads nowhere. -/
theorem complete : Reading.complete.IsLeaf :=
  ⟨fun _ member => (List.not_mem_nil member).elim, .inl rfl⟩

/-- A reading that stops leads nowhere. -/
theorem stopped (stop : Stop) : (Reading.stopped stop).IsLeaf :=
  ⟨fun _ member => (List.not_mem_nil member).elim, .inr ⟨stop, rfl⟩⟩

/-- A header with its chain in front of a reading that leads nowhere. -/
theorem chained (base : Span) (marks : List Mark) (length : Nat) {rest : Reading}
    (h : rest.IsLeaf) : (after [.chained base marks length] rest).IsLeaf :=
  ⟨List.forall_mem_cons.mpr ⟨⟨base, marks, length, rfl⟩, h.steps⟩, h.ending⟩

/-- A reading that goes on with a result leads nowhere if what follows does not. -/
theorem attempt {α : Type} {result : Except Stop α} {next : α → Reading}
    (rest : ∀ value, result = .ok value → (next value).IsLeaf) :
    (Reading.attempt result next).IsLeaf := by
  cases result with
  | error stop => exact .stopped stop
  | ok value => exact rest value rfl

/-- Following steps and then a reading that leads nowhere takes the steps of both and does nothing
else. -/
theorem follow_after {reading : Reading} (leaf : reading.IsLeaf) (deeper : Descent) (data : Octets)
    (steps : List Step) (d : Dissector) :
    let outcome := Dissector.follow deeper data (Reading.after steps reading) d
    let taken := (d.takeAll steps).1.takeAll reading.steps
    outcome.dissector = taken.1 ∧ outcome.events = (d.takeAll steps).2 ++ taken.2 := by
  rw [Dissector.follow_after]
  unfold Dissector.follow
  rcases leaf.ending with ending | ⟨stop, ending⟩ <;> rw [ending] <;> exact ⟨rfl, rfl⟩

end Reading.IsLeaf

namespace Reading

variable {data : Octets} {offset position : Nat} {header : Ipv6Header} {last : ExtensionHeader}
  {fields : FragmentFields} (roomy : Roomy data.size)
  (read : Ipv6Header.read data offset = .ok header)
  (later : Chain.LaterFragment data (offset + Ipv6Header.size) header.nextHeader position last
    fields)

include roomy read later

/-- The reading of an IPv6 packet whose chain ends with the header of a later fragment. -/
theorem ipv6_of_laterFragment (ends : Chain.Ends data (position + 8) last.nextHeader) :
    ∃ marks, (ipv6 data offset).steps = [.chained ⟨.ipv6, offset, Ipv6Header.size⟩
          (marks ++ [.fragment !fields.more]) (position + 8 - (offset + Ipv6Header.size))] ∧
      (ipv6 data offset).IsLeaf ∧
      ∀ mark ∈ marks, mark.Between (offset + Ipv6Header.size) position := by
  have room : data.size + overhang < offsetBound := roomy
  obtain ⟨behind, inside, -⟩ := later.position_le
  obtain ⟨marks, followed, before⟩ := Chain.follow_of_laterFragment later (Nat.add_zero _).symm true
    room ends
  have start : advance offset Ipv6Header.size = .ok (offset + Ipv6Header.size) :=
    if_pos (by omega)
  have whole : offset + Ipv6Header.size + (position + 8 - (offset + Ipv6Header.size)) =
      position + 8 := by omega
  have payload : advance (offset + Ipv6Header.size)
      (position + 8 - (offset + Ipv6Header.size)) = .ok (position + 8) := by
    rw [advance, whole]
    exact if_pos (by rw [overhang] at room; omega)
  unfold ipv6 Chain.read
  rw [read, attempt_ok, start, attempt_ok, followed, attempt_ok, payload, attempt_ok]
  refine ⟨marks, ?_, .chained _ _ _ ?_, before⟩
  · cases last.nextHeader.extensionForm? <;> rfl
  · cases last.nextHeader.extensionForm? with
    | none => exact .complete
    | some form => exact .stopped .truncated

/-- The reading of an IPv6 packet with the header of a later fragment leads nowhere, if no header of
a first fragment follows. -/
theorem isLeaf_ipv6_of_laterFragment
    (behind : ∀ target fields,
      Chain.Visits data (position + last.length) last.nextHeader target .ipv6Frag →
        FragmentFields.read? data target = some fields → fields.offset ≠ 0) :
    (ipv6 data offset).IsLeaf := by
  unfold ipv6 Chain.read
  rw [read, attempt_ok]
  refine .attempt fun start sum => ?_
  obtain rfl := eq_add_of_advance sum
  refine .attempt fun chain followed => ?_
  have first := Chain.isFirstFragment_of_laterFragment later (Nat.add_zero _).symm behind roomy
    followed
  refine .attempt fun payload _ => .chained _ _ _ ?_
  rw [first]
  cases chain.complete
  · exact .stopped .truncated
  · exact .complete

end Reading

/-! ## Packets -/

section Packet

variable (deeper : Descent) (steps : List Step) (d : Dissector)

/-- The header of a later fragment in the chain of an IPv6 packet ends the packet, if no extension
header follows it: what happens in front of it is about the headers before it, and behind it the
record of the IPv6 header is to be widened over the chain and nothing else happens. The flags stay
those of the fragment.

If extension headers follow it, but none of a first fragment, then neither the payload is
interpreted nor a handler asked: all that happens is that spans are recorded and flags set. -/
theorem later_fragment_ends {data : Octets} {offset position : Nat} {header : Ipv6Header}
    {last : ExtensionHeader} {fields : FragmentFields} (roomy : Roomy data.size)
    (read : Ipv6Header.read data offset = .ok header)
    (later : Chain.LaterFragment data (offset + Ipv6Header.size) header.nextHeader position last
      fields) :
    let outcome :=
      Dissector.follow deeper data (Reading.after steps (Reading.ipv6 data offset)) d
    let whole : Span := ⟨.ipv6, offset, position + 8 - offset⟩
    (Chain.Ends data (position + 8) last.nextHeader →
      (∃ before after, outcome.events =
          (d.takeAll steps).2 ++ (before ++ .fragment (!fields.more) :: after) ∧
        (∀ event ∈ before, event.InFront position) ∧
        ∀ event ∈ after, (∃ index, event = .widened index whole) ∨
          ∃ reason, event = .refused whole reason) ∧
      outcome.dissector.scalars.isFragment = true ∧
      outcome.dissector.scalars.isLastFragment = !fields.more) ∧
    ((∀ target fields,
        Chain.Visits data (position + last.length) last.nextHeader target .ipv6Frag →
          FragmentFields.read? data target = some fields → fields.offset ≠ 0) →
      ∃ more, outcome.events = (d.takeAll steps).2 ++ more ∧ ∀ event ∈ more, event.OfChain) := by
  intro outcome whole
  constructor
  · intro ends
    obtain ⟨marks, alone, leaf, between⟩ := Reading.ipv6_of_laterFragment roomy read later ends
    obtain ⟨dissector, events⟩ := leaf.follow_after deeper data steps d
    rw [alone] at dissector events
    have fixed : offset + Ipv6Header.size ≤ position := later.position_le.1
    have length : Ipv6Header.size + (position + 8 - (offset + Ipv6Header.size)) =
        position + 8 - offset := by omega
    obtain ⟨⟨before, after, told, inFront, widened⟩, flags⟩ :=
      (d.takeAll steps).1.takeChained_fragment ⟨.ipv6, offset, Ipv6Header.size⟩ (!fields.more)
        (position + 8 - (offset + Ipv6Header.size)) fixed between
    rw [length] at widened
    refine ⟨⟨before, after, ?_, inFront, widened⟩, ?_⟩
    · rw [events, ← told]
      exact congrArg _ (List.append_nil _)
    · rw [dissector]
      exact flags
  · intro behind
    have leaf := Reading.isLeaf_ipv6_of_laterFragment roomy read later behind
    obtain ⟨-, events⟩ := leaf.follow_after deeper data steps d
    refine ⟨_, events, Dissector.forall_events_takeAll _ fun step member d => ?_⟩
    obtain ⟨base, marks, length, rfl⟩ := leaf.steps step member
    exact d.ofChain_takeChained base marks length

end Packet

/-- A later fragment with octets of a payload behind its fragment header. -/
theorem later_fragment_ends_udp :
    let data : Octets :=
      #[0x60, 0, 0, 0, 0, 16, 0x2c, 64, 0xfe, 0x80, 0, 0, 0, 0, 0, 0, 0, 0, 0, 0, 0, 0, 0, 1,
        0xfe, 0x80, 0, 0, 0, 0, 0, 0, 0, 0, 0, 0, 0, 0, 0, 2, 0x11, 0, 0, 0xb8, 0, 0, 0, 1,
        0, 53, 0, 53, 0, 8, 0, 0]
    let d : Dissector := { captureLength := 56, wireLength := 56 }
    let outcome := Dissector.follow (Dissector.descend 4) data
      (Reading.after [.framing .rawIp] (Reading.ipv6 data 0)) d
    Roomy data.size ∧ Ipv6Header.read data 0 = .ok ⟨6, 16, .ipv6Frag⟩ ∧
      Chain.LaterFragment data 40 .ipv6Frag 40 ⟨.udp, 8⟩ ⟨0xb8, false⟩ ∧
      Chain.Ends data 48 .udp ∧
      outcome.dissector.scalars.isFragment = true ∧
      outcome.dissector.scalars.isLastFragment = true ∧
      ∃ more, outcome.events = [] ++ more ∧ ∀ event ∈ more, event.OfChain := by
  intro data d outcome
  have roomy : Roomy data.size := (by decide : data.size + overhang < offsetBound)
  have read : Ipv6Header.read data 0 = .ok ⟨6, 16, .ipv6Frag⟩ := by
    have told : (Ipv6Header.read data 0).toOption.map id = some ⟨6, 16, .ipv6Frag⟩ := by
      decide +kernel
    obtain ⟨_, found, rfl⟩ := ok_of_map_toOption told
    exact found
  have later : Chain.LaterFragment data 40 .ipv6Frag 40 ⟨.udp, 8⟩ ⟨0xb8, false⟩ :=
    .here (by decide +kernel) (by decide +kernel) (by decide)
  have ends : Chain.Ends data 48 .udp := nofun
  have alone : ∀ target fields, Chain.Visits data 48 .udp target .ipv6Frag →
      FragmentFields.read? data target = some fields → fields.offset ≠ 0 := by
    intro target fields visited
    cases visited with
    | behind extension => cases extension
  obtain ⟨ended, untouched⟩ := later_fragment_ends (Dissector.descend 4) [.framing .rawIp] d roomy
    read later
  exact ⟨roomy, read, later, ends, (ended ends).2.1, (ended ends).2.2, untouched alone⟩

/-- A later fragment whose payload reads like the fragment header of a first fragment and a UDP
header: the flags are overwritten, and the octets are recorded as a UDP header. -/
theorem later_fragment_overwritten :
    let data : Octets :=
      #[0x60, 0, 0, 0, 0, 24, 0x2c, 64, 0xfe, 0x80, 0, 0, 0, 0, 0, 0, 0, 0, 0, 0, 0, 0, 0, 1,
        0xfe, 0x80, 0, 0, 0, 0, 0, 0, 0, 0, 0, 0, 0, 0, 0, 2, 0x2c, 0, 0, 0xb8, 0, 0, 0, 1,
        0x11, 0, 0, 1, 0, 0, 0, 1, 0, 53, 0, 53, 0, 8, 0, 0]
    let d : Dissector := { config := { link := .rawIp } }
    Chain.LaterFragment data Ipv6Header.size .ipv6Frag 40 ⟨.ipv6Frag, 8⟩ ⟨0xb8, false⟩ ∧
      ∃ traced, d.reset.dissect data 64 64 0 = .ok traced ∧
        traced.2 = [.stored ⟨.ipv6, 0, 40⟩, .fragment true, .fragment false,
          .widened 0 ⟨.ipv6, 0, 56⟩, .payload .udp 56 .ipv6, .stored ⟨.udp, 56, 8⟩] := by
  intro data d
  have events : (d.reset.dissect data 64 64 0).toOption.map (·.2) =
      some [.stored ⟨.ipv6, 0, 40⟩, .fragment true, .fragment false, .widened 0 ⟨.ipv6, 0, 56⟩,
        .payload .udp 56 .ipv6, .stored ⟨.udp, 56, 8⟩] := by
    decide +kernel
  exact ⟨.here (by decide +kernel) (by decide +kernel) (by decide), ok_of_map_toOption events⟩

end FrameSpans
