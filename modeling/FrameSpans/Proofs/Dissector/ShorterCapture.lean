import FrameSpans.Proofs.Dissector.Truncation

/-!
# What shorter captures show

Without handlers, the spans found in fewer octets are the first ones of those found in more, at the
same positions; only the record of an Ethernet header may lack tags, and that of an IPv6 header the
end of its chain (`Dissector.spans_of_shorter_capture`).

As long as the dissection of the fewer octets finds its headers completely, the two tables are equal
(`Lockstep`). Where it does not, it finds at most one more header (`Reading.Cut`), in part, and then
nothing. The other dissection goes on, and its table only grows.
-/

namespace FrameSpans

/-! ## As long as there are octets -/

/-- Two dissectors of the same packet, without handlers, that found the same spans so far. -/
structure Lockstep (data whole : Octets) (d u : Dissector) : Prop extends
    Shortened data whole d u where
  /-- There are no handlers. -/
  alone : d.registry = none
  /-- The tables are equal. -/
  spans_eq : u.spans = d.spans

namespace Lockstep

variable {data whole : Octets} {d d' u u' : Dissector} {events more : List Event}

/-- Evolutions leave everything else as it was, so it is enough to compare the tables. -/
theorem evolve (h : Lockstep data whole d u) (left : Evolves d events d')
    (right : Evolves u more u') (tables : u'.spans = d'.spans) : Lockstep data whole d' u' where
  toShortened := h.toShortened.evolve left right
  alone := left.keeps.registry_eq.trans h.alone
  spans_eq := tables

/-- Both enter an encapsulated packet. -/
theorem enter (h : Lockstep data whole d u) :
    Lockstep data whole { d with depth := d.depth + 1 } { u with depth := u.depth + 1 } :=
  { h with toShortened := h.toShortened.enter }

/-- There are equally many records. -/
theorem recordCount_eq (h : Lockstep data whole d u) : u.recordCount = d.recordCount := by
  rw [← u.length_spans, h.spans_eq, d.length_spans]

/-- Both tables are full, or neither is. -/
theorem isFull_eq (h : Lockstep data whole d u) : u.isFull = d.isFull := by
  rw [Dissector.isFull, h.capacity_eq, h.recordCount_eq, Dissector.isFull]

/-- While there is room, both sides accept a span that ends within the fewer octets. -/
theorem offer (h : Lockstep data whole d u) (free : d.isFull = false) {span : Span}
    (within : span.offset + span.length ≤ data.size) :
    ∃ recorded all, d.offer span = .ok recorded ∧ u.offer span = .ok all ∧
      Lockstep data whole recorded all := by
  obtain ⟨recorded, here⟩ := Dissector.offer_of_admits free (h.admits within)
  obtain ⟨all, there⟩ := Dissector.offer_of_admits (h.isFull_eq.trans free)
    (h.admits' (Nat.le_trans within h.begins.size_le))
  refine ⟨recorded, all, here, there, h.evolve (.store here) (.store there) ?_⟩
  rw [Dissector.spans_of_offer there, Dissector.spans_of_offer here, h.spans_eq]

/-- Offering a span that ends within the fewer octets. -/
theorem addSpan (h : Lockstep data whole d u) {span : Span}
    (within : span.offset + span.length ≤ data.size) :
    Lockstep data whole (d.addSpan span).1 (u.addSpan span).1 := by
  unfold Dissector.addSpan
  cases full : d.isFull with
  | true =>
    rw [Dissector.offer_of_isFull full, Dissector.offer_of_isFull (h.isFull_eq.trans full)]
    exact h
  | false =>
    obtain ⟨recorded, all, here, there, still⟩ := h.offer full within
    rw [here, there]
    exact still

/-- Taking a mark. -/
theorem takeMark (h : Lockstep data whole d u) {mark : Mark} (within : mark.Within data.size) :
    Lockstep data whole (d.takeMark mark).1 (u.takeMark mark).1 := by
  cases mark with
  | fragment isLast => exact h.evolve (.fragment d isLast) (.fragment u isLast) h.spans_eq
  | option span =>
    unfold Dissector.takeMark
    dsimp only
    rw [h.config_eq]
    split
    · exact h.addSpan within
    · exact h

/-- Taking marks. -/
theorem takeMarks (h : Lockstep data whole d u) {marks : List Mark}
    (within : ∀ mark ∈ marks, mark.Within data.size) :
    Lockstep data whole (d.takeMarks marks).1 (u.takeMarks marks).1 :=
  Dissector.related_takeMarks (fun within h => h.takeMark within) within h

/-- Widening a record to a span that ends within the fewer octets. -/
theorem updateSpan (h : Lockstep data whole d u) (index : Nat) {span : Span}
    (within : span.offset + span.length ≤ data.size) :
    Lockstep data whole (d.updateSpan index span).1 (u.updateSpan index span).1 := by
  have agreed : (u.widen index span).isOk = (d.widen index span).isOk := by
    rw [Bool.eq_iff_iff, Dissector.widen_isOk_iff, Dissector.widen_isOk_iff, h.recordCount_eq,
      eq_true (h.admits within), eq_true (h.admits' (Nat.le_trans within h.begins.size_le))]
  unfold Dissector.updateSpan
  rcases both_of_isOk_eq agreed with ⟨widened, all, here, there⟩ | ⟨reason, other, here, there⟩
  · rw [here, there]
    refine h.evolve (.widen here) (.widen there) ?_
    rw [Dissector.spans_of_widen there, Dissector.spans_of_widen here, h.spans_eq]
  · rw [here, there]
    exact h

/-- Taking a header whose chain ends within the fewer octets. -/
theorem takeChained (h : Lockstep data whole d u) {base : Span} {marks : List Mark} {length : Nat}
    (inside : base.offset + (base.length + length) ≤ data.size)
    (within : ∀ mark ∈ marks, mark.Within data.size) :
    Lockstep data whole (d.takeChained base marks length).1
      (u.takeChained base marks length).1 := by
  unfold Dissector.takeChained
  cases full : d.isFull with
  | true =>
    rw [Dissector.offer_of_isFull full, Dissector.offer_of_isFull (h.isFull_eq.trans full)]
    exact h.takeMarks within
  | false =>
    have header : base.offset + base.length ≤ data.size := by omega
    obtain ⟨recorded, all, here, there, still⟩ := h.offer full header
    rw [here, there]
    have marked := still.takeMarks within
    dsimp only
    split
    · exact marked
    · rw [h.recordCount_eq]
      exact marked.updateSpan d.recordCount inside

/-- Taking a step that ends within the fewer octets. -/
theorem take (h : Lockstep data whole d u) {size : Nat} {step : Step} (sound : step.Sound size)
    (within : step.Within data.size) : Lockstep data whole (d.take step).1 (u.take step).1 := by
  cases step with
  | header span => exact h.addSpan within
  | mark mark => exact h.takeMark within
  | chained base marks length => exact h.takeChained within.1 within.2
  | framing type =>
    refine h.evolve (.framing d sound) (.framing u sound) ?_
    show (u.setFraming type).spans = (d.setFraming type).spans
    rw [Evolves.spans_setFraming, Evolves.spans_setFraming, h.spans_eq]
  | payload | remark => exact h

/-- Taking steps that end within the fewer octets. -/
theorem takeAll (h : Lockstep data whole d u) {size : Nat} {steps : List Step}
    (sound : ∀ step ∈ steps, step.Sound size) (within : ∀ step ∈ steps, step.Within data.size) :
    Lockstep data whole (d.takeAll steps).1 (u.takeAll steps).1 :=
  Dissector.related_takeAll (fun taken h => h.take taken.1 taken.2)
    (fun step member => And.intro (sound step member) (within step member)) h

end Lockstep

/-! ## Where the octets end -/

/-- The spans of the one table are the first ones of the other, up to the lengths of headers that
may have been found in part. -/
inductive Span.Heads : List Span → List Span → Prop
  /-- There are no more spans in the one. -/
  | nil (longer : List Span) : Heads [] longer
  /-- There is one more in both. -/
  | cons {span span' : Span} {shorter longer : List Span} (first : span.Matches span')
    (rest : Heads shorter longer) : Heads (span :: shorter) (span' :: longer)

namespace Span.Heads

variable {shorter longer more : List Span}

/-- The first spans of a table. -/
theorem of_front (h : shorter <+: longer) : Heads shorter longer := by
  obtain ⟨rest, rfl⟩ := h
  induction shorter with
  | nil => exact .nil rest
  | cons span others ih => exact .cons (.refl span) ih

/-- The other table may go on. -/
theorem trans_front (h : Heads shorter longer) (goes_on : longer <+: more) :
    Heads shorter more := by
  obtain ⟨rest, rfl⟩ := goes_on
  induction h with
  | nil longer => exact .nil _
  | cons first _ ih => exact .cons first ih

/-- The same spans in front of both tables. -/
theorem append_left (front : List Span) (h : Heads shorter longer) :
    Heads (front ++ shorter) (front ++ longer) := by
  induction front with
  | nil => exact h
  | cons span others ih => exact .cons (.refl span) ih

/-- Ids and offsets are the first ones. -/
theorem front_places (h : Heads shorter longer) :
    shorter.map (fun span => (span.id, span.offset)) <+:
      longer.map fun span => (span.id, span.offset) := by
  induction h with
  | nil longer => exact ⟨_, rfl⟩
  | cons first rest ih =>
    obtain ⟨id, offset, -⟩ := first
    rw [List.map_cons, List.map_cons, id, offset]
    exact List.cons_prefix_cons.mpr ⟨rfl, ih⟩

/-- Spans at the same place of both tables match. -/
theorem getElem?_matches (h : Heads shorter longer) {index : Nat} {span span' : Span}
    (here : shorter[index]? = some span) (there : longer[index]? = some span') :
    span.Matches span' := by
  induction h generalizing index with
  | nil longer => cases here
  | cons first rest ih =>
    cases index with
    | zero =>
      cases here
      cases there
      exact first
    | succ index => exact ih here there

end Span.Heads

namespace Dissector

/-- The table behind a header that was accepted, with its chain: only the length of the header may
have changed. -/
theorem spans_takeChained {d recorded : Dissector} {base : Span}
    (offered : d.offer base = .ok recorded) {marks : List Mark} {rest : List Span}
    (marked : (recorded.takeMarks marks).1.spans = d.spans ++ base :: rest) (length : Nat) :
    ∃ widened, (d.takeChained base marks length).1.spans =
      d.spans ++ { base with length := widened } :: rest := by
  unfold takeChained
  rw [offered]
  dsimp only
  split
  · exact ⟨base.length, marked⟩
  · unfold updateSpan
    split
    · next widened exchanged =>
      refine ⟨base.length + length, ?_⟩
      rw [spans_of_widen exchanged, marked, ← d.length_spans, Span.set_length_append]
    · exact ⟨base.length, marked⟩

end Dissector

namespace Lockstep

variable {data whole : Octets} {d u : Dissector}

/-- Offering a header that may be found in part. -/
theorem heads_addSpan (h : Lockstep data whole d u) {span span' : Span}
    (found : span.Matches span')
    (inside : span.offset + span.length ≤ data.size → span'.offset + span'.length ≤ whole.size) :
    Span.Heads (d.addSpan span).1.spans (u.addSpan span').1.spans := by
  cases here : d.offer span with
  | error reason =>
    rw [Dissector.addSpan, here, ← h.spans_eq]
    exact .of_front (Dissector.granted_prefix.addSpan u span')
  | ok recorded =>
    obtain ⟨free, admits, -⟩ := Dissector.of_offer here
    have within := admits.1
    rw [h.captureLength_eq] at within
    obtain ⟨all, there⟩ := Dissector.offer_of_admits (h.isFull_eq.trans free)
      (h.admits' (inside within))
    rw [Dissector.addSpan, here, Dissector.addSpan, there]
    show Span.Heads recorded.spans all.spans
    rw [Dissector.spans_of_offer here, Dissector.spans_of_offer there, h.spans_eq]
    exact .append_left d.spans (.cons found (.nil []))

/-- Taking an IPv6 header whose chain goes on in more octets. -/
theorem heads_takeChained (h : Lockstep data whole d u) {base : Span} {front rear rear' : List Mark}
    (header : base.id = .ipv6) (inside : base.offset + base.length ≤ data.size)
    (within : ∀ mark ∈ front, mark.Within data.size)
    (beyond : ∀ mark ∈ rear, mark.Beyond data.size) (length length' : Nat) :
    Span.Heads (d.takeChained base (front ++ rear) length).1.spans
      (u.takeChained base (front ++ rear') length').1.spans := by
  cases full : d.isFull with
  | true =>
    rw [h.spans_eq_of_isFull full (d.evolves_takeChained base _ length)
      (Dissector.carried_prefix.takeChained d base _ length), ← h.spans_eq]
    exact .of_front (Dissector.carried_prefix.takeChained u base _ length')
  | false =>
    obtain ⟨recorded, all, here, there, still⟩ := h.offer full inside
    have marked := still.takeMarks within
    -- Both tables hold the header and what the captured part of the chain left behind it.
    obtain ⟨rest, left⟩ := recorded.prefix_takeMarks front
    rw [Dissector.spans_of_offer here, List.append_assoc, List.singleton_append] at left
    obtain ⟨further, right⟩ := (all.takeMarks front).1.prefix_takeMarks rear'
    rw [marked.spans_eq, ← left, ← h.spans_eq, List.append_assoc, List.cons_append] at right
    have idle : (recorded.takeMarks (front ++ rear)).1.spans = d.spans ++ base :: rest := by
      rw [Dissector.takeMarks_append, left]
      exact Dissector.spans_takeMarks_beyond _ (marked.captureLength_eq ▸ beyond)
    have goes_on : (all.takeMarks (front ++ rear')).1.spans =
        u.spans ++ base :: (rest ++ further) := by
      rw [Dissector.takeMarks_append]
      exact right.symm
    obtain ⟨widened, shorter⟩ := Dissector.spans_takeChained here idle length
    obtain ⟨widened', longer⟩ := Dissector.spans_takeChained there goes_on length'
    rw [shorter, longer, h.spans_eq]
    exact .append_left d.spans (.cons ⟨rfl, rfl, .inr (.inr header)⟩
      (.of_front (List.prefix_append rest further)))

end Lockstep

/-! ## The walk -/

/-- Descending where so many levels are left leaves tables of which the one is the first part of the
other. -/
def Descent.Heading (levels : Nat) (deeper : Descent) : Prop :=
  ∀ (entry : Entry) (data whole : Octets) (offset : Nat) (d u : Dissector),
    d.levelsLeft = levels → Lockstep data whole d u →
    Span.Heads (deeper entry data offset d).dissector.spans
      (deeper entry whole offset u).dissector.spans

namespace Lockstep

section Walk

variable {levels : Nat} {deeper : Descent} (growing : deeper.Growing) (idle : deeper.Idle)
  {data whole : Octets} {d u : Dissector}

include growing idle

/-- Following a reading that finds nothing more behind its steps. -/
theorem heads_parted (h : Lockstep data whole d u) {size : Nat} {steps steps' : List Step}
    {short long : Reading} (sound : ∀ step ∈ steps, step.Sound size)
    (barren : short.Barren data.size)
    (heads : Span.Heads (d.takeAll steps).1.spans (u.takeAll steps').1.spans) :
    Span.Heads (Dissector.follow deeper data (Reading.after steps short) d).dissector.spans
      (Dissector.follow deeper whole (Reading.after steps' long) u).dissector.spans := by
  rw [Dissector.spans_follow_after_barren idle sound barren h.restful]
  exact heads.trans_front (Dissector.prefix_follow_after growing whole steps' long u)

/-- Following the readings of a level. -/
theorem heads_follow (heading : deeper.Heading levels) {short long : Reading}
    (cut : Reading.Cut data.size whole.size short long)
    (sound : ∀ step ∈ short.steps, step.Sound data.size) (h : Lockstep data whole d u)
    (left : d.levelsLeft = levels) :
    Span.Heads (Dissector.follow deeper data short d).dissector.spans
      (Dissector.follow deeper whole long u).dissector.spans := by
  -- Induction on the ways in which the readings may differ: behind the steps that they share there
  -- is at most one more header in the fewer octets.
  induction cut generalizing d u with
  | ends ending =>
    cases ending with
    | complete | stopped => exact .of_front (h.spans_eq ▸ List.prefix_refl _)
    | encapsulated entry offset => exact heading entry data whole offset d u left h
    | consult id offset inquiry =>
      show Span.Heads (Dissector.consult deeper _ d).1.spans _
      have none_asked : (Dissector.consult deeper ⟨data, offset, id, inquiry⟩ d).1 = d := by
        unfold Dissector.consult
        rw [h.alone]
        cases inquiry <;> rfl
      rw [none_asked, ← h.spans_eq]
      exact .of_front (Dissector.carried_prefix.consult growing _ u)
  | barren nothing =>
    rw [Dissector.follow_barren idle nothing h.restful, ← h.spans_eq]
    exact .of_front (Dissector.carried_prefix.follow growing whole _ u)
  | @after steps short long within rest ih =>
    rw [Reading.steps_after, List.forall_mem_append] at sound
    rw [Dissector.follow_after, Dissector.follow_after]
    exact ih sound.2 (h.takeAll sound.1 within)
      ((d.evolves_takeAll sound.1).levelsLeft_eq.trans left)
  | last found inside nothing =>
    rw [Reading.steps_after, List.forall_mem_append] at sound
    exact heads_parted growing idle h sound.1 nothing (h.heads_addSpan found inside)
  | @chained base front rear rear' length length' short long header inside within beyond nothing =>
    rw [Reading.steps_after, List.forall_mem_append] at sound
    exact heads_parted growing idle h sound.1 nothing
      (h.heads_takeChained header inside within beyond length length')

end Walk

/-- Entering encapsulated packets, however many levels are left. -/
theorem heading_descend (levels : Nat) : Descent.Heading levels (Dissector.descend levels) := by
  -- Induction on the levels that are left, as for `Dissector.evolves_descend`.
  induction levels with
  | zero => exact fun entry data whole offset d u _ h => .of_front (h.spans_eq ▸ List.prefix_refl _)
  | succ levels ih =>
    intro entry data whole offset d u left h
    exact heads_follow (Dissector.growing_descend levels) (Dissector.idle_descend levels) ih
      (Reading.cut_read h.begins offset entry) (Reading.sound_read data entry offset).steps h.enter
      (Dissector.levelsLeft_enter left)

/-- Dissecting captures. -/
theorem heads_dissectCapture {data whole : Octets} {d u : Dissector}
    (h : Lockstep data whole d u) :
    Span.Heads (d.dissectCapture data).dissector.spans
      (u.dissectCapture whole).dissector.spans := by
  unfold Dissector.dissectCapture
  rw [h.levelsLeft_eq, h.config_eq]
  exact heads_follow (Dissector.growing_descend _) (Dissector.idle_descend _) (heading_descend _)
    (Reading.cut_readLink h.begins d.config.link)
    (Dissector.sound_readLink d.config.link data).steps h rfl

end Lockstep

/-! ## Captures -/

namespace Dissector

/-- Without handlers, a dissection of fewer octets of a packet that fits into a span finds the first
ones of the spans that a dissection of more octets finds. They have the same lengths, except that
the last tags of an Ethernet header or the end of the chain of an IPv6 header may be missing. -/
theorem spans_of_shorter_capture {d : Dissector} (alone : d.registry = none) {frame : Octets}
    (small : frame.size ≤ Span.maxLength) {shorter longer : Nat} (le : shorter ≤ longer)
    (held : longer ≤ frame.size) {wireLength wireLength' : Nat} (wired : shorter ≤ wireLength)
    (wired' : longer ≤ wireLength') (timestamp timestamp' : UInt64) :
    ∃ part all,
      d.reset.dissect frame shorter wireLength timestamp = .ok part ∧
      d.reset.dissect frame longer wireLength' timestamp' = .ok all ∧
      part.1.spans.map (fun span => (span.id, span.offset)) <+:
        all.1.spans.map (fun span => (span.id, span.offset)) ∧
      ∀ (index : Nat) (span span' : Span), part.1.spans[index]? = some span →
        all.1.spans[index]? = some span' → span.id ≠ .ethernet → span.id ≠ .ipv6 →
        span'.length = span.length := by
  have idle : d.Restful := by
    intro registry found
    rw [alone] at found
    cases found
  have begun : Lockstep (frame.extract 0 shorter) (frame.extract 0 longer)
      (d.reset.started shorter wireLength timestamp)
      (d.reset.started longer wireLength' timestamp') :=
    { shortened_started idle small le held wireLength wireLength' timestamp timestamp' with
      alone, spans_eq := rfl }
  have heads := begun.heads_dissectCapture
  refine ⟨_, _, dissect_held (Nat.le_trans le held) wired timestamp,
    dissect_held held wired' timestamp', ?_⟩
  rw [Outcome.dissector_closed, Outcome.dissector_closed]
  refine ⟨heads.front_places, fun index span span' here there frame packet => ?_⟩
  obtain ⟨-, -, length | found | found⟩ := heads.getElem?_matches here there
  · exact length
  · exact absurd found frame
  · exact absurd found packet

/-- This capture of an IPv6 datagram ends within the second extension header, and that of the whole
frame behind a UDP header. The fewer octets show the IPv6 header without its chain, and what they
show of the chain is found in the more octets at the same place. -/
theorem spans_of_shorter_capture_in_chain :
    let octets : List UInt8 := List.replicate 12 2 ++ [0x86, 0xdd, 0x60, 0, 0, 0, 0, 24, 0, 64] ++
      List.replicate 32 1 ++ 60 :: List.replicate 7 0 ++ 17 :: List.replicate 7 0 ++
      [0, 53, 0, 53, 0, 8, 0, 0]
    let frame : Octets := octets.toArray
    let d : Dissector := {}
    d.registry = none ∧ frame.size ≤ Span.maxLength ∧ 64 ≤ 78 ∧ 78 ≤ frame.size ∧ 64 ≤ 78 ∧
      78 ≤ 78 ∧ ∃ part all, d.reset.dissect frame 64 78 0 = .ok part ∧
        d.reset.dissect frame 78 78 0 = .ok all ∧
        part.1.spans.map (fun span => (span.id, span.offset)) <+:
          all.1.spans.map (fun span => (span.id, span.offset)) ∧
        part.1.spans =
          [⟨.ethernet, 0, 14⟩, ⟨.ipv6, 14, 40⟩, ⟨.ofClass .ipv6Extension 0, 54, 8⟩] ∧
        all.1.spans = [⟨.ethernet, 0, 14⟩, ⟨.ipv6, 14, 56⟩, ⟨.ofClass .ipv6Extension 0, 54, 8⟩,
          ⟨.ofClass .ipv6Extension 3, 62, 8⟩, ⟨.udp, 70, 8⟩] := by
  intro octets frame d
  have small : frame.size ≤ Span.maxLength := by decide
  have held : 78 ≤ frame.size := by decide
  obtain ⟨part, all, dissected, whole, first, -⟩ :=
    spans_of_shorter_capture (d := d) rfl small (by decide : 64 ≤ 78) held
      (by decide : 64 ≤ 78) (by decide : 78 ≤ 78) 0 0
  have found : (d.reset.dissect frame 64 78 0).toOption.map
      (fun part => decide (part.1.spans =
        [⟨.ethernet, 0, 14⟩, ⟨.ipv6, 14, 40⟩, ⟨.ofClass .ipv6Extension 0, 54, 8⟩])) =
      some true := by
    decide +kernel
  have found' : (d.reset.dissect frame 78 78 0).toOption.map
      (fun all => decide (all.1.spans = [⟨.ethernet, 0, 14⟩, ⟨.ipv6, 14, 56⟩,
        ⟨.ofClass .ipv6Extension 0, 54, 8⟩, ⟨.ofClass .ipv6Extension 3, 62, 8⟩, ⟨.udp, 70, 8⟩])) =
      some true := by
    decide +kernel
  rw [dissected] at found
  rw [whole] at found'
  exact ⟨rfl, small, by decide, held, by decide, by decide, part, all, dissected, whole, first,
    of_decide_eq_true (Option.some.inj found), of_decide_eq_true (Option.some.inj found')⟩

end Dissector

end FrameSpans
