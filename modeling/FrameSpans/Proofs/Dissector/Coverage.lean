import FrameSpans.Proofs.Dissector.Walk

/-!
# Extension headers and the span of their IPv6 header

The record of an IPv6 header is widened over the chain of its extension headers, but in one go and
only at the end of the chain. So there are two kinds of tables. Where the chain is captured up to
its end and its length fits into a word, every extension header that is recorded lies inside the
span of an IPv6 header that is recorded before it. Where it does not, the record of the IPv6 header
keeps the length of the fixed part, and the extension headers that were recorded already lie outside
of it (`truncated_chain_uncovered`).

`extension_headers_housed` tells both for all captures. The proof follows the walk with the events
of the whole dissection fixed, so that a refused record can be pointed out in them.
-/

namespace FrameSpans

/-! ## Housed spans -/

/-- The first span lies inside the second. -/
def Span.Inside (span outer : Span) : Prop :=
  outer.offset ≤ span.offset ∧ span.offset + span.length ≤ outer.offset + outer.length

instance (span outer : Span) : Decidable (span.Inside outer) :=
  inferInstanceAs (Decidable (_ ∧ _))

/-- The span of an IPv6 header covers a span; or it covers the fixed part alone, because the header
was to cover more, the span among it, and that was refused: it ends behind the captured octets or is
too long for a word. -/
def Span.Houses (events : List Event) (captureLength : Nat) (outer span : Span) : Prop :=
  outer.id = .ipv6 ∧
    (span.Inside outer ∨
      outer.length = Ipv6Header.size ∧ ∃ length reason,
        .refused { outer with length } reason ∈ events ∧ span.Inside { outer with length } ∧
          (captureLength < outer.offset + length ∨ Span.maxLength < length))

/-- Every extension header in a table has an earlier record with the given relation to it. -/
def Housed (R : Span → Span → Prop) (spans : List Span) : Prop :=
  ∀ (i : Nat) (span : Span), spans[i]? = some span → span.id.kind = .ipv6Extension →
    ∃ (j : Nat) (outer : Span), j < i ∧ spans[j]? = some outer ∧ R outer span

namespace Housed

variable {R : Span → Span → Prop} {spans : List Span}

/-- An empty table has no extension headers. -/
theorem nil : Housed R [] :=
  nofun

/-- A table stays housed if records are added, each of which is no extension header or has an
earlier record in the table. -/
theorem append {more : List Span} (h : Housed R spans)
    (rest : ∀ span ∈ more, span.id.kind = .ipv6Extension → ∃ outer ∈ spans, R outer span) :
    Housed R (spans ++ more) := by
  intro i span found extension
  rw [List.getElem?_append] at found
  split at found
  · next old =>
    obtain ⟨j, outer, before, recorded, related⟩ := h i span found extension
    refine ⟨j, outer, before, ?_, related⟩
    rw [List.getElem?_append_left (Nat.lt_trans before old)]
    exact recorded
  · next new =>
    obtain ⟨outer, member, related⟩ := rest span (List.mem_of_getElem? found) extension
    obtain ⟨j, recorded⟩ := List.getElem?_of_mem member
    have inside : j < spans.length := (List.getElem?_eq_some_iff.mp recorded).1
    refine ⟨j, outer, by omega, ?_, related⟩
    rw [List.getElem?_append_left inside]
    exact recorded

/-- A table stays housed if a record is added that is no extension header. -/
theorem snoc {span : Span} (h : Housed R spans) (other : span.id.kind ≠ .ipv6Extension) :
    Housed R (spans ++ [span]) :=
  h.append fun _ member extension => absurd extension (List.mem_singleton.mp member ▸ other)

/-- A table stays housed if an IPv6 header is added and then what it houses. -/
theorem chain {base : Span} {more : List Span} (h : Housed R spans)
    (header : base.id = .ipv6) (rest : ∀ span ∈ more, R base span) :
    Housed R (spans ++ base :: more) := by
  have other : base.id.kind ≠ .ipv6Extension := by
    rw [header]
    decide
  rw [List.append_cons]
  exact (h.snoc other).append fun span member _ =>
    ⟨base, List.mem_append_right _ List.mem_cons_self, rest span member⟩

end Housed

/-! ## Spans that are accepted -/

/-- A span that is accepted later would have been accepted before. -/
theorem Evolves.isOk_offer {d d' : Dissector} {events : List Event} (h : Evolves d events d')
    {span : Span} (accepted : (d'.offer span).isOk = true) : (d.offer span).isOk = true := by
  obtain ⟨room, within, word⟩ := (Dissector.offer_isOk_iff d' span).mp accepted
  rw [h.keeps.captureLength_eq] at within
  refine (Dissector.offer_isOk_iff d span).mpr ⟨?_, within, word⟩
  -- A table that was full before would be full later.
  cases full : d.isFull with
  | false => rfl
  | true =>
    rw [h.isFull full] at room
    cases room

namespace Dissector

/-- Where a short span is refused, no span behind it is accepted. -/
theorem refuses_behind {d : Dissector} {base span : Span} {reason : Refusal}
    (refused : d.offer base = .error reason) (short : base.length ≤ Span.maxLength)
    (behind : base.offset + base.length ≤ span.offset) : (d.offer span).isOk = false := by
  rw [Bool.eq_false_iff]
  intro accepted
  obtain ⟨room, within, offset, -⟩ := (offer_isOk_iff d span).mp accepted
  have fits : (d.offer base).isOk = true :=
    (offer_isOk_iff d base).mpr ⟨room, by omega, by omega, short⟩
  rw [refused] at fits
  cases fits

/-- If a record is not exchanged for a span whose offset fits into a word, the span ends behind the
capture or is too long for a word. -/
theorem outgrows_of_widen {d : Dissector} {index : Nat} {span : Span} {reason : Refusal}
    (refused : d.widen index span = .error reason) (occupied : index < d.recordCount)
    (offset : span.offset ≤ Span.maxOffset) :
    d.captureLength < span.offset + span.length ∨ Span.maxLength < span.length := by
  rcases Nat.lt_or_ge d.captureLength (span.offset + span.length) with beyond | within
  · exact .inl beyond
  · rcases Nat.lt_or_ge Span.maxLength span.length with long | short
    · exact .inr long
    · obtain ⟨widened, accepted⟩ := widen_of_admits occupied ⟨within, offset, short⟩
      rw [refused] at accepted
      cases accepted

/-- Offering a span adds it to the table, if it is accepted. -/
theorem spans_addSpan (d : Dissector) (span : Span) :
    ∃ taken, (d.addSpan span).1.spans = d.spans ++ taken ∧
      ∀ found ∈ taken, found = span ∧ (d.offer span).isOk = true := by
  unfold addSpan
  split
  · next recorded offered =>
    refine ⟨[span], spans_of_offer offered, fun found member => ?_⟩
    rw [offered]
    exact ⟨List.mem_singleton.mp member, rfl⟩
  · exact ⟨[], (List.append_nil _).symm, nofun⟩

section Marks

variable {P : Mark → Prop}

/-- What a mark adds to the table is accepted, and what holds of the mark holds of it. -/
theorem spans_takeMark (d : Dissector) {mark : Mark} (each : P mark) :
    ∃ taken, (d.takeMark mark).1.spans = d.spans ++ taken ∧
      ∀ span ∈ taken, (d.offer span).isOk = true ∧ P (.option span) := by
  cases mark with
  | fragment => exact ⟨[], (List.append_nil _).symm, nofun⟩
  | option span =>
    unfold takeMark
    dsimp only
    split
    · obtain ⟨taken, spans, accepted⟩ := d.spans_addSpan span
      refine ⟨taken, spans, fun found member => ?_⟩
      obtain ⟨rfl, room⟩ := accepted found member
      exact ⟨room, each⟩
    · exact ⟨[], (List.append_nil _).symm, nofun⟩

/-- What marks add to the table would have been accepted before them, and what holds of the marks
holds of it. -/
theorem spans_takeMarks (d : Dissector) {marks : List Mark} (all : ∀ mark ∈ marks, P mark) :
    ∃ taken, (d.takeMarks marks).1.spans = d.spans ++ taken ∧
      ∀ span ∈ taken, (d.offer span).isOk = true ∧ P (.option span) := by
  induction marks generalizing d with
  | nil => exact ⟨[], (List.append_nil _).symm, nofun⟩
  | cons mark rest ih =>
    obtain ⟨here, others⟩ := List.forall_mem_cons.mp all
    obtain ⟨taken, spans, accepted⟩ := d.spans_takeMark here
    obtain ⟨later, added, found⟩ := ih (d.takeMark mark).1 others
    refine ⟨taken ++ later, ?_, fun span member => ?_⟩
    · rw [← List.append_assoc, ← spans]
      exact added
    · rcases List.mem_append.mp member with early | late
      · exact accepted span early
      · obtain ⟨room, same⟩ := found span late
        exact ⟨(d.evolves_takeMark mark).isOk_offer room, same⟩

end Marks

end Dissector

/-! ## Steps -/

/-- The dissector of a capture without handlers, whose extension headers are housed. -/
structure Dissector.Covering (events : List Event) (captureLength : Nat) (d : Dissector) :
    Prop where
  /-- There are no handlers. -/
  registry_eq : d.registry = none
  /-- The capture has that length. -/
  captureLength_eq : d.captureLength = captureLength
  /-- Every extension header is housed by an IPv6 header. -/
  housed : Housed (Span.Houses events captureLength) d.spans

section Steps

variable {events : List Event} {captureLength : Nat}

namespace Dissector

/-- A header with its chain of extension headers leaves these housed. -/
theorem housed_takeChained {d : Dissector} (h : d.Covering events captureLength) {base : Span}
    {marks : List Mark} {length : Nat} (header : base.id = .ipv6)
    (fixed : base.length = Ipv6Header.size)
    (between : ∀ mark ∈ marks,
      mark.Between (base.offset + base.length) (base.offset + base.length + length))
    (told : (d.takeChained base marks length).2 ⊆ events) :
    Housed (Span.Houses events captureLength) (d.takeChained base marks length).1.spans := by
  cases offered : d.offer base with
  | error reason =>
    unfold takeChained
    rw [offered]
    -- What comes behind a header that is refused is refused as well.
    obtain ⟨taken, spans, found⟩ := d.spans_takeMarks between
    have nothing : taken = [] := by
      refine List.eq_nil_iff_forall_not_mem.mpr fun span member => ?_
      obtain ⟨room, behind, -⟩ := found span member
      rw [refuses_behind offered (by rw [fixed]; decide) behind] at room
      cases room
    dsimp only
    rw [spans, nothing, List.append_nil]
    exact h.housed
  | ok recorded =>
    obtain ⟨-, ⟨-, offset, -⟩, -⟩ := of_offer offered
    obtain ⟨taken, spans, found⟩ := recorded.spans_takeMarks between
    rw [spans_of_offer offered, List.append_assoc, List.singleton_append] at spans
    have evolved := (Evolves.store offered).append (recorded.evolves_takeMarks marks)
    unfold takeChained at told ⊢
    rw [offered] at told ⊢
    dsimp only at told ⊢
    by_cases empty : length = 0
    · -- What is found in an empty chain is empty itself.
      rw [if_pos empty, spans]
      refine h.housed.chain header fun span member => ⟨header, .inl ?_⟩
      obtain ⟨-, behind, ends⟩ := found span member
      exact ⟨by omega, by omega⟩
    · rw [if_neg empty] at told ⊢
      unfold updateSpan at told ⊢
      cases widened : (recorded.takeMarks marks).1.widen d.recordCount
          { base with length := base.length + length } with
      | ok whole =>
        have exchanged := spans_of_widen widened
        rw [spans, ← d.length_spans, List.set_append_right _ _ (Nat.le_refl _), Nat.sub_self,
          List.set_cons_zero] at exchanged
        rw [exchanged]
        refine h.housed.chain header fun span member => ⟨header, .inl ?_⟩
        obtain ⟨-, behind, ends⟩ := found span member
        exact ⟨Nat.le_of_add_right_le behind, by dsimp only; omega⟩
      | error reason =>
        rw [widened] at told
        rw [spans]
        have refused : .refused { base with length := base.length + length } reason ∈ events :=
          told (List.mem_append_right _ List.mem_cons_self)
        have occupied : d.recordCount < (recorded.takeMarks marks).1.recordCount := by
          rw [evolved.recordCount_eq, List.countP_append]
          exact Nat.lt_add_of_pos_right (Nat.add_pos_left Nat.one_pos _)
        have outgrown := outgrows_of_widen widened occupied offset
        rw [evolved.keeps.captureLength_eq, h.captureLength_eq] at outgrown
        refine h.housed.chain header fun span member => ⟨header, .inr ⟨fixed, ?_⟩⟩
        obtain ⟨-, behind, ends⟩ := found span member
        refine ⟨_, reason, refused, ⟨Nat.le_of_add_right_le behind, ?_⟩, outgrown⟩
        dsimp only
        omega

/-- A step leaves extension headers housed. -/
theorem housed_take {d : Dissector} (h : d.Covering events captureLength) {step : Step}
    (placed : step.Placed) (told : (d.take step).2 ⊆ events) :
    Housed (Span.Houses events captureLength) (d.take step).1.spans := by
  -- Extension headers are found in chains only.
  have added : ∀ span : Span, span.id.kind ≠ .ipv6Extension →
      Housed (Span.Houses events captureLength) (d.addSpan span).1.spans := by
    intro span other
    obtain ⟨taken, spans, accepted⟩ := d.spans_addSpan span
    rw [spans]
    refine h.housed.append fun found member extension => ?_
    obtain ⟨rfl, -⟩ := accepted found member
    exact absurd extension other
  cases step with
  | header span =>
    refine added span ?_
    rw [show span.id.kind = .protocol from placed]
    decide
  | mark mark =>
    cases mark with
    | fragment => exact h.housed
    | option span =>
      unfold take takeMark
      dsimp only
      split
      · exact added span placed
      · exact h.housed
  | chained base marks length =>
    obtain ⟨header, fixed, between⟩ := placed
    exact housed_takeChained h header fixed between told
  | framing type =>
    show Housed _ (d.setFraming type).spans
    rw [Evolves.spans_setFraming]
    exact h.housed
  | payload | remark => exact h.housed

/-- Steps leave extension headers housed. -/
theorem Covering.takeAll {d : Dissector} (h : d.Covering events captureLength) {size : Nat}
    {steps : List Step} (sound : ∀ step ∈ steps, step.Sound size)
    (placed : ∀ step ∈ steps, step.Placed) (told : (d.takeAll steps).2 ⊆ events) :
    (d.takeAll steps).1.Covering events captureLength := by
  induction steps generalizing d with
  | nil => exact h
  | cons step rest ih =>
    obtain ⟨soundly, soundness⟩ := List.forall_mem_cons.mp sound
    obtain ⟨here, others⟩ := List.forall_mem_cons.mp placed
    obtain ⟨first, later⟩ := List.append_subset.mp told
    have kept := (d.evolves_take soundly).keeps
    have next : (d.take step).1.Covering events captureLength :=
      ⟨kept.registry_eq.trans h.registry_eq, kept.captureLength_eq.trans h.captureLength_eq,
        housed_take h here first⟩
    exact ih next soundness others later

end Dissector

/-! ## The walk -/

/-- Descending leaves extension headers housed. -/
def Descent.Covering (events : List Event) (captureLength : Nat) (deeper : Descent) : Prop :=
  ∀ (entry : Entry) (data : Octets) (offset : Nat) (d : Dissector), entry.Placed data offset →
    d.Covering events captureLength → (deeper entry data offset d).events ⊆ events →
      Housed (Span.Houses events captureLength) (deeper entry data offset d).dissector.spans

namespace Dissector

/-- Following a reading leaves extension headers housed. -/
theorem housed_follow {deeper : Descent} (covering : deeper.Covering events captureLength)
    {d : Dissector} (h : d.Covering events captureLength) {data : Octets} {start : Nat}
    {reading : Reading} (sound : reading.Sound data.size) (placed : reading.Placed data start)
    (told : (follow deeper data reading d).events ⊆ events) :
    Housed (Span.Houses events captureLength) (follow deeper data reading d).dissector.spans := by
  have taken : (d.takeAll reading.steps).2 ⊆ events →
      (d.takeAll reading.steps).1.Covering events captureLength :=
    h.takeAll sound.steps placed.steps
  have place := placed.ending
  unfold follow at told ⊢
  dsimp only at told ⊢
  cases ending : reading.ending with
  | complete | stopped =>
    rw [ending] at told
    exact (taken told).housed
  | encapsulated entry offset =>
    rw [ending] at told place
    obtain ⟨early, late⟩ := List.append_subset.mp told
    exact covering entry data offset _ place.2 (taken early) late
  | consult id offset inquiry =>
    rw [ending] at told
    obtain ⟨early, -⟩ := List.append_subset.mp told
    have still := taken early
    -- Without handlers there is nobody to ask.
    unfold consult
    rw [still.registry_eq]
    cases inquiry with
    | ports | nextHeader => exact still.housed

/-- Entering encapsulated packets leaves extension headers housed. -/
theorem housed_descend (levels : Nat) : Descent.Covering events captureLength (descend levels) := by
  -- Induction on the levels that are left, as for `evolves_descend`.
  induction levels with
  | zero => exact fun entry data offset d _ h _ => h.housed
  | succ levels ih =>
    intro entry data offset d placed h told
    have entered : Covering events captureLength { d with depth := d.depth + 1 } :=
      ⟨h.registry_eq, h.captureLength_eq, h.housed⟩
    obtain ⟨within, -⟩ := List.append_subset.mp told
    exact housed_follow ih entered (Reading.sound_read data entry offset)
      (Reading.placed_read data placed) (List.cons_subset.mp within).2

end Dissector

end Steps

/-! ## Captures -/

/-- Without handlers, every extension header that is recorded of a capture is housed by an IPv6
header that is recorded before it: it lies inside the span of that header, or that span was not
widened over the chain, because the chain ends behind the captured octets or is too long. -/
theorem extension_headers_housed (d : Dissector) (unhandled : d.registry = none) (buffer : Octets)
    {captureLength wireLength : Nat} (timestamp : UInt64) (held : captureLength ≤ buffer.size)
    (wired : captureLength ≤ wireLength) :
    ∃ traced, d.reset.dissect buffer captureLength wireLength timestamp = .ok traced ∧
      Housed (Span.Houses traced.2 captureLength) traced.1.spans := by
  have begun (events : List Event) :
      (d.reset.started captureLength wireLength timestamp).Covering events captureLength :=
    ⟨unhandled, rfl, .nil⟩
  rw [Dissector.dissect_eq, if_neg (by omega), if_neg (by omega)]
  refine ⟨_, rfl, ?_⟩
  rw [Outcome.dissector_closed]
  exact Dissector.housed_follow (Dissector.housed_descend _) (begun _)
    (Dissector.sound_readLink _ _) (Dissector.placed_readLink _ _)
    (Outcome.events_subset_closed _ _)

/-- A capture with two extension headers in front of its UDP header. -/
theorem extension_headers_housed_udp :
    let buffer : Octets :=
      #[0x60, 0, 0, 0, 0, 24, 0x3c, 64, 0xfe, 0x80, 0, 0, 0, 0, 0, 0, 0, 0, 0, 0, 0, 0, 0, 1,
        0xfe, 0x80, 0, 0, 0, 0, 0, 0, 0, 0, 0, 0, 0, 0, 0, 2, 0x2b, 0, 1, 4, 0, 0, 0, 0,
        0x11, 0, 1, 4, 0, 0, 0, 0, 0, 53, 0, 53, 0, 8, 0, 0]
    let d : Dissector := { config := { link := .rawIp } }
    d.registry = none ∧ 64 ≤ buffer.size ∧ 64 ≤ 90 ∧
      ∃ traced, d.reset.dissect buffer 64 90 0 = .ok traced ∧
        Housed (Span.Houses traced.2 64) traced.1.spans ∧
        traced.1.spans = [⟨.ipv6, 0, 56⟩, ⟨.ofClass .ipv6Extension 3, 40, 8⟩,
          ⟨.ofClass .ipv6Extension 1, 48, 8⟩, ⟨.udp, 56, 8⟩] := by
  intro buffer d
  obtain ⟨traced, dissected, housed⟩ :=
    extension_headers_housed d rfl buffer 0 (by decide : 64 ≤ buffer.size) (by decide : 64 ≤ 90)
  have spans : (d.reset.dissect buffer 64 90 0).toOption.map (·.1.spans) =
      some [⟨.ipv6, 0, 56⟩, ⟨.ofClass .ipv6Extension 3, 40, 8⟩,
        ⟨.ofClass .ipv6Extension 1, 48, 8⟩, ⟨.udp, 56, 8⟩] := by
    decide +kernel
  rw [dissected] at spans
  exact ⟨rfl, by decide, by decide, traced, dissected, housed, Option.some.inj spans⟩

/-- The second extension header of this capture is cut off. The record of the IPv6 header is not
widened at all, and the first extension header, which was captured completely, lies outside of it.
-/
theorem truncated_chain_uncovered :
    let buffer : Octets :=
      #[0x60, 0, 0, 0, 0, 10, 0, 64, 0xfe, 0x80, 0, 0, 0, 0, 0, 0, 0, 0, 0, 0, 0, 0, 0, 1,
        0xfe, 0x80, 0, 0, 0, 0, 0, 0, 0, 0, 0, 0, 0, 0, 0, 2, 0x3c, 0, 1, 4, 0, 0, 0, 0, 6, 0]
    let d : Dissector := { config := { link := .rawIp } }
    ∃ traced, d.reset.dissect buffer 50 50 0 = .ok traced ∧
      traced.1.spans = [⟨.ipv6, 0, 40⟩, ⟨.ofClass .ipv6Extension 0, 40, 8⟩] ∧
      ¬Housed (fun outer span => outer.id = .ipv6 ∧ span.Inside outer) traced.1.spans := by
  intro buffer d
  have told : (d.reset.dissect buffer 50 50 0).toOption.map (·.1.spans) =
      some [⟨.ipv6, 0, 40⟩, ⟨.ofClass .ipv6Extension 0, 40, 8⟩] := by
    decide +kernel
  obtain ⟨traced, dissected, spans⟩ := ok_of_map_toOption told
  refine ⟨traced, dissected, spans, fun housed => ?_⟩
  rw [spans] at housed
  obtain ⟨j, outer, before, found, -, inside⟩ := housed 1 _ rfl rfl
  obtain rfl : j = 0 := by omega
  cases found
  revert inside
  decide

end FrameSpans
