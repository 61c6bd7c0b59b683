import FrameSpans.Proofs.Dissector.Truncation

/-!
# Longer captures lose no spans

With no handlers or with tunnel handlers, a dissection of more octets of a packet finds at least as
many spans as one of fewer octets (`Dissector.recordCount_le_of_longer_capture`).

Several handlers may be asked about one datagram, and each of them may go on further in the more
octets, so the one table is not the beginning of the other. But it holds no more spans (`Ahead`),
and that is enough to go on: as long as the table of the more octets has room, what is accepted in
the fewer octets is accepted there as well, and once it is full it holds as many spans as any table
can (`Ahead.of_isFull`). Of handlers it takes that they ask for the same in the more octets, as far
as they go in the fewer (`Program.Cut`).
-/

namespace FrameSpans

/-! ## Handlers -/

/-- The program of a handler in the fewer octets, and that in the more. The one may end early; as
long as it does not, both make the same requests. -/
inductive Program.Cut (data whole : Octets) : Program → Program → Prop
  /-- The one ends. -/
  | done (long : Program) : Cut data whole .done long
  /-- The one fails. -/
  | fault (long : Program) : Cut data whole .fault long
  /-- Both leave a note. -/
  | note {text : String} {short long : Program} (rest : Cut data whole short long) :
    Cut data whole (.note text short) (.note text long)
  /-- Both ask for the number of captured octets. -/
  | captureLength {short long : Nat → Program}
    (rest : Cut data whole (short data.size) (long whole.size)) :
    Cut data whole (.captureLength short) (.captureLength long)
  /-- Both offer a span. One that is refused in the fewer octets may be accepted in the more. -/
  | addSpan {span : Span} {short long : Bool → Program}
    (accepted : Cut data whole (short true) (long true))
    (refused : ∀ answer, Cut data whole (short false) (long answer)) :
    Cut data whole (.addSpan span short) (.addSpan span long)
  /-- Both have an encapsulated packet dissected. -/
  | dissect {inner : Encapsulation} {offset : Nat} {short long : Program}
    (rest : Cut data whole short long) :
    Cut data whole (.dissect inner data offset short) (.dissect inner whole offset long)

/-- Programs that go on with what was read. -/
theorem Program.Cut.ofRead {data whole : Octets} {α : Type} {result result' : Except Stop α}
    {next next' : α → Program} (lasts : Lasting Eq result result')
    (rest : ∀ value, Cut data whole (next value) (next' value)) :
    Cut data whole (Program.ofRead result next) (Program.ofRead result' next') := by
  cases found : result with
  | ok value =>
    obtain ⟨_, found', rfl⟩ := lasts value found
    rw [found']
    exact rest value
  | error stop =>
    cases stop with
    | truncated => exact .done _
    | fault => exact .fault _

/-- Programs that depend on the same condition. -/
theorem Program.Cut.ite {data whole : Octets} {c : Prop} [Decidable c]
    {yes no yes' no' : Program} (first : Cut data whole yes yes') (second : Cut data whole no no') :
    Cut data whole (if c then yes else no) (if c then yes' else no') := by
  split
  · exact first
  · exact second

/-- A handler that asks for the same in more octets, as far as it goes in fewer. -/
def Handler.Lasts (handler : Handler) : Prop :=
  ∀ (data whole : Octets) (offset : Nat) (id : ProtocolId) (inquiry : Inquiry),
    Octets.Begins data whole →
    Program.Cut data whole (handler ⟨data, offset, id, inquiry⟩)
      (handler ⟨whole, offset, id, inquiry⟩)

namespace Tunnel

/-- A header of which nothing was captured ends the program of a handler. -/
theorem ofRead_behind {α : Type} {data : Octets} {offset length : Nat} {result : Except Stop α}
    (h : Guarded data.size result fun _ => offset + length ≤ data.size) (pos : 0 < length)
    (behind : data.size ≤ offset) (next : α → Program) :
    Program.ofRead result next = .done ∨ Program.ofRead result next = .fault := by
  cases found : result with
  | ok value =>
    have inside := h.value found
    omega
  | error stop =>
    cases stop with
    | truncated => exact .inl rfl
    | fault => exact .inr rfl

/-- Tunnel handlers do nothing behind the octets. -/
theorem IsHandler.idle {handler : Handler} (h : IsHandler handler) : handler.Idle := by
  intro call behind
  have esp : recordEsp call.data call.offset = .done ∨
      recordEsp call.data call.offset = .fault :=
    ofRead_behind (EspHeader.guarded_read call.data call.offset) (by decide) behind _
  cases h with
  | vxlan port =>
    unfold Tunnel.vxlan
    split
    · exact .inl rfl
    · split
      · exact .inl rfl
      · exact ofRead_behind (VxlanHeader.guarded_read call.data call.offset) (by decide) behind _
  | geneve port =>
    unfold Tunnel.geneve
    split
    · exact .inl rfl
    · split
      · exact .inl rfl
      · exact ofRead_behind (GeneveHeader.guarded_read call.data call.offset) (by decide) behind _
  | esp =>
    unfold Tunnel.esp
    split
    · split
      · exact esp
      · exact .inl rfl
    · split
      · exact esp
      · exact .inl rfl

/-- Tunnel handlers ask for the same in more octets: they read headers only, and do not go on behind
a span that was refused. -/
theorem IsHandler.lasts {handler : Handler} (h : IsHandler handler) : handler.Lasts := by
  intro data whole offset id inquiry begins
  have recorded : Program.Cut data whole (recordEsp data offset) (recordEsp whole offset) :=
    .ofRead (EspHeader.lasting_read begins offset) fun header =>
      .ite (.done _) (.addSpan (.done _) fun _ => .done _)
  cases h with
  | vxlan port =>
    cases inquiry with
    | nextHeader value => exact .done _
    | ports source destination =>
      refine .ite (.done _) (.ofRead (VxlanHeader.lasting_read begins offset) fun header => ?_)
      refine .ite (.done _) (.addSpan ?_ fun _ => .done _)
      exact .ofRead (.refl _) fun behind => .dissect (.done _)
  | geneve port =>
    cases inquiry with
    | nextHeader value => exact .done _
    | ports source destination =>
      refine .ite (.done _) (.ofRead (GeneveHeader.lasting_read begins offset) fun header => ?_)
      refine .ite (.done _) (.addSpan ?_ fun _ => .done _)
      exact .ofRead (.refl _) fun behind => .dissect (.done _)
  | esp =>
    cases inquiry with
    | nextHeader value => exact .ite recorded (.done _)
    | ports source destination => exact .ite recorded (.done _)

end Tunnel

/-! ## Steps -/

/-- The number of records behind a header with its chain is that of the header and its marks: a
record that is widened is none more. -/
theorem Dissector.recordCount_takeChained (d : Dissector) (base : Span) (marks : List Mark)
    (length : Nat) :
    (d.takeChained base marks length).1.recordCount =
      ((d.addSpan base).1.takeMarks marks).1.recordCount := by
  unfold takeChained addSpan
  cases d.offer base with
  | error reason => rfl
  | ok recorded =>
    dsimp only
    split
    · rfl
    · unfold updateSpan
      split
      · next widened exchanged =>
        obtain ⟨-, -, word, -, rfl⟩ := of_widen exchanged
        exact List.length_set
      · rfl

/-- Two dissectors of the same packet, of which the one has found no more spans so far than the
other. -/
structure Ahead (data whole : Octets) (d u : Dissector) : Prop extends
    Shortened data whole d u where
  /-- The handlers ask for the same in more octets. -/
  lasts : ∀ registry, d.registry = some registry → ∀ entry ∈ registry.entries, Handler.Lasts entry.2
  /-- There are no more records in the fewer octets. -/
  recordCount_le : d.recordCount ≤ u.recordCount

namespace Ahead

variable {data whole : Octets} {d d' u u' : Dissector} {events more : List Event}

/-- Evolutions leave everything else as it was, so it is enough to count the records. -/
theorem evolve (h : Ahead data whole d u) (left : Evolves d events d') (right : Evolves u more u')
    (counts : d'.recordCount ≤ u'.recordCount) : Ahead data whole d' u' where
  toShortened := h.toShortened.evolve left right
  lasts registry found := h.lasts registry (left.keeps.registry_eq.symm.trans found)
  recordCount_le := counts

/-- Both enter an encapsulated packet. -/
theorem enter (h : Ahead data whole d u) :
    Ahead data whole { d with depth := d.depth + 1 } { u with depth := u.depth + 1 } :=
  { h with toShortened := h.toShortened.enter }

/-- Both leave an encapsulated packet. -/
theorem leave (h : Ahead data whole d u) :
    Ahead data whole { d with depth := d.depth - 1 } { u with depth := u.depth - 1 } :=
  { h with toShortened := h.toShortened.leave }

/-- Whatever else is found in the more octets, it is not less. -/
theorem grow (h : Ahead data whole d u) (right : Evolves u more u') : Ahead data whole d u' := by
  have count := right.recordCount_eq
  have counts := h.recordCount_le
  exact h.evolve (.nothing d) right (by omega)

/-- Once the table of the more octets is full, it holds as many records as any table can, whatever
happens on either side. -/
theorem of_isFull (h : Ahead data whole d u) (full : u.isFull = true) (left : Evolves d events d')
    (right : Evolves u more u') : Ahead data whole d' u' := by
  refine h.evolve left right ?_
  cases room : u.capacity with
  | none =>
    rw [Dissector.isFull, room] at full
    cases full
  | some capacity =>
    have room' : d.capacity = some capacity := h.capacity_eq.symm.trans room
    have bound := left.recordCount_le room' (h.bounded capacity room')
    have least := (Dissector.isFull_iff room).mp full
    have count := right.recordCount_eq
    omega

/-- What is not recorded in the fewer octets does not count, and the other table only grows. -/
theorem recordCount_le_of_spans (h : Ahead data whole d u) (same : d'.spans = d.spans)
    (grown : u.spans <+: u'.spans) : d'.recordCount ≤ u'.recordCount := by
  have counts := h.recordCount_le
  rw [← d.length_spans, ← u.length_spans, ← same] at counts
  rw [← d'.length_spans, ← u'.length_spans]
  exact Nat.le_trans counts grown.length_le

/-- While the table of the more octets has room, what is accepted in the fewer is accepted there as
well, at whatever length the more octets show it. -/
theorem offer (h : Ahead data whole d u) (free : u.isFull = false) {span span' : Span}
    (inside : span.offset + span.length ≤ data.size → span'.offset + span'.length ≤ whole.size)
    {recorded : Dissector} (here : d.offer span = .ok recorded) :
    ∃ all, u.offer span' = .ok all ∧ Ahead data whole recorded all := by
  obtain ⟨-, admits, -⟩ := Dissector.of_offer here
  have within := admits.1
  rw [h.captureLength_eq] at within
  obtain ⟨all, there⟩ := Dissector.offer_of_admits free (h.admits' (inside within))
  refine ⟨all, there, h.evolve (.store here) (.store there) ?_⟩
  rw [(Evolves.store here).recordCount_eq, (Evolves.store there).recordCount_eq]
  exact Nat.add_le_add_right h.recordCount_le 1

/-- Offering a header that may be found in part. -/
theorem addSpan_found (h : Ahead data whole d u) {span span' : Span}
    (inside : span.offset + span.length ≤ data.size → span'.offset + span'.length ≤ whole.size) :
    Ahead data whole (d.addSpan span).1 (u.addSpan span').1 := by
  cases full : u.isFull with
  | true => exact h.of_isFull full (d.evolves_addSpan span) (u.evolves_addSpan span')
  | false =>
    cases here : d.offer span with
    | error reason =>
      rw [Dissector.addSpan, here]
      exact h.grow (u.evolves_addSpan span')
    | ok recorded =>
      obtain ⟨all, there, still⟩ := h.offer full inside here
      rw [Dissector.addSpan, here, Dissector.addSpan, there]
      exact still

/-- Offering a span. -/
theorem addSpan (h : Ahead data whole d u) (span : Span) :
    Ahead data whole (d.addSpan span).1 (u.addSpan span).1 :=
  h.addSpan_found fun inside => Nat.le_trans inside h.begins.size_le

/-- Taking a mark. -/
theorem takeMark (h : Ahead data whole d u) (mark : Mark) :
    Ahead data whole (d.takeMark mark).1 (u.takeMark mark).1 := by
  cases mark with
  | fragment isLast => exact h.evolve (.fragment d isLast) (.fragment u isLast) h.recordCount_le
  | option span =>
    unfold Dissector.takeMark
    dsimp only
    rw [h.config_eq]
    split
    · exact h.addSpan span
    · exact h

/-- Taking marks. -/
theorem takeMarks (h : Ahead data whole d u) (marks : List Mark) :
    Ahead data whole (d.takeMarks marks).1 (u.takeMarks marks).1 :=
  Dissector.related_takeMarks (P := fun _ => True) (fun _ h => h.takeMark _) (fun _ _ => trivial) h

/-- Taking marks of which the last ones end behind the fewer octets. -/
theorem takeMarks_parted (h : Ahead data whole d u) (front : List Mark) {rear : List Mark}
    (beyond : ∀ mark ∈ rear, mark.Beyond data.size) (rear' : List Mark) :
    Ahead data whole (d.takeMarks (front ++ rear)).1 (u.takeMarks (front ++ rear')).1 := by
  have marked := h.takeMarks front
  have further := marked.grow ((u.takeMarks front).1.evolves_takeMarks rear')
  rw [Dissector.takeMarks_append, Dissector.takeMarks_append]
  refine further.evolve ((d.takeMarks front).1.evolves_takeMarks rear) (.nothing _) ?_
  rw [← Dissector.length_spans,
    Dissector.spans_takeMarks_beyond _ (marked.captureLength_eq ▸ beyond), Dissector.length_spans]
  exact further.recordCount_le

/-- Taking a header with its chain, of whose marks the last ones may end behind the fewer octets. -/
theorem takeChained (h : Ahead data whole d u) (base : Span) (front : List Mark)
    {rear : List Mark} (beyond : ∀ mark ∈ rear, mark.Beyond data.size) (rear' : List Mark)
    (length length' : Nat) :
    Ahead data whole (d.takeChained base (front ++ rear) length).1
      (u.takeChained base (front ++ rear') length').1 := by
  refine h.evolve (d.evolves_takeChained base _ length) (u.evolves_takeChained base _ length') ?_
  rw [Dissector.recordCount_takeChained, Dissector.recordCount_takeChained]
  exact ((h.addSpan base).takeMarks_parted front beyond rear').recordCount_le

/-- Taking a step. -/
theorem take (h : Ahead data whole d u) {size : Nat} {step : Step} (sound : step.Sound size) :
    Ahead data whole (d.take step).1 (u.take step).1 := by
  cases step with
  | header span => exact h.addSpan span
  | mark mark => exact h.takeMark mark
  | chained base marks length =>
    have none_beyond : ∀ mark ∈ ([] : List Mark), mark.Beyond data.size := nofun
    have taken := h.takeChained base marks none_beyond [] length length
    rw [List.append_nil] at taken
    exact taken
  | framing type =>
    refine h.evolve (.framing d sound) (.framing u sound) ?_
    show (d.setFraming type).records.length ≤ (u.setFraming type).records.length
    rw [Evolves.records_setFraming, Evolves.records_setFraming]
    exact h.recordCount_le
  | payload | remark => exact h

/-- Taking steps. -/
theorem takeAll (h : Ahead data whole d u) {size : Nat} {steps : List Step}
    (sound : ∀ step ∈ steps, step.Sound size) :
    Ahead data whole (d.takeAll steps).1 (u.takeAll steps).1 :=
  Dissector.related_takeAll (fun sound h => h.take sound) sound h

end Ahead

/-! ## The walk -/

/-- Descending where so many levels are left finds no more spans in the fewer octets. -/
def Descent.Leading (levels : Nat) (deeper : Descent) : Prop :=
  ∀ (entry : Entry) (data whole : Octets) (offset : Nat) (d u : Dissector),
    d.levelsLeft = levels → Ahead data whole d u →
    Ahead data whole (deeper entry data offset d).dissector (deeper entry whole offset u).dissector

namespace Ahead

/-- Following a reading that finds nothing more behind its steps. -/
theorem recordCount_parted {deeper : Descent} (growing : deeper.Growing) (idle : deeper.Idle)
    {data whole : Octets} {d u : Dissector} (h : Ahead data whole d u) {size : Nat}
    {steps steps' : List Step} {short long : Reading} (sound : ∀ step ∈ steps, step.Sound size)
    (barren : short.Barren data.size)
    (taken : Ahead data whole (d.takeAll steps).1 (u.takeAll steps').1) :
    (Dissector.follow deeper data (Reading.after steps short) d).dissector.recordCount ≤
      (Dissector.follow deeper whole (Reading.after steps' long) u).dissector.recordCount :=
  taken.recordCount_le_of_spans
    (Dissector.spans_follow_after_barren idle sound barren h.restful)
    (Dissector.prefix_follow_after growing whole steps' long u)

section Walk

variable {levels : Nat} {deeper : Descent} (evolving : deeper.Evolving levels)
  (leading : deeper.Leading levels) {data whole : Octets} {d u : Dissector}

include leading

/-- Dissecting an encapsulated packet on behalf of a handler. -/
theorem reenter (h : Ahead data whole d u) (left : d.levelsLeft = levels) (inner : Encapsulation)
    (offset : Nat) :
    Ahead data whole (d.reenter deeper inner data offset).1
      (u.reenter deeper inner whole offset).1 := by
  have followed := leading inner.entry data whole offset d u left h
  rw [Dissector.reenter_eq_closed, Dissector.reenter_eq_closed, Outcome.dissector_closed,
    Outcome.dissector_closed, h.captureLength_eq, h.captureLength_eq', Octets.upTo_size,
    Octets.upTo_size]
  exact followed

include evolving

/-- Granting the requests of programs. -/
theorem run {short long : Program} (cut : Program.Cut data whole short long)
    (h : Ahead data whole d u) (left : d.levelsLeft = levels) :
    Ahead data whole (short.run deeper d).1 (long.run deeper u).1 := by
  -- Induction on what the programs have in common.
  induction cut generalizing d u with
  | done long => exact h.grow (Program.evolves_run evolving long (h.levelsLeft_eq.trans left))
  | fault long => exact h.grow (Program.evolves_run evolving long (h.levelsLeft_eq.trans left))
  | note rest ih => exact ih h left
  | captureLength rest ih =>
    unfold Program.run
    rw [h.captureLength_eq, h.captureLength_eq']
    exact ih h left
  | @addSpan span short long accepted refused ih₁ ih₂ =>
    cases full : u.isFull with
    | true =>
      -- From here on the programs may go different ways, but the table that counts is full.
      exact h.of_isFull full (Program.evolves_run evolving _ left)
        (Program.evolves_run evolving _ (h.levelsLeft_eq.trans left))
    | false =>
      unfold Program.run
      cases here : d.offer span with
      | ok recorded =>
        obtain ⟨all, there, still⟩ :=
          h.offer full (fun inside => Nat.le_trans inside h.begins.size_le) here
        rw [there]
        exact ih₁ still ((Evolves.store here).levelsLeft_eq.trans left)
      | error reason =>
        cases there : u.offer span with
        | ok all => exact ih₂ true (h.grow (.store there)) left
        | error other => exact ih₂ false h left
  | @dissect inner offset short long rest ih =>
    have first := Dissector.evolves_reenter evolving left inner data offset
    exact ih (h.reenter leading left inner offset) (first.levelsLeft_eq.trans left)

/-- Asking handlers that ask for the same in more octets. -/
theorem askAll (offset : Nat) (id : ProtocolId) (inquiry : Inquiry)
    {handlers : List (Nat × Handler)} (lasts : ∀ entry ∈ handlers, Handler.Lasts entry.2)
    (h : Ahead data whole d u) (left : d.levelsLeft = levels) :
    Ahead data whole (Dissector.askAll deeper ⟨data, offset, id, inquiry⟩ handlers d).1
      (Dissector.askAll deeper ⟨whole, offset, id, inquiry⟩ handlers u).1 := by
  induction handlers generalizing d u with
  | nil => exact h
  | cons entry rest ih =>
    obtain ⟨slot, handler⟩ := entry
    obtain ⟨here, others⟩ := List.forall_mem_cons.mp lasts
    have first := (handler ⟨data, offset, id, inquiry⟩).evolves_run evolving left
    exact ih others (run evolving leading (here data whole offset id inquiry h.begins) h left)
      (first.levelsLeft_eq.trans left)

/-- Asking the handlers of a registry. -/
theorem consult (offset : Nat) (id : ProtocolId) (inquiry : Inquiry)
    (h : Ahead data whole d u) (left : d.levelsLeft = levels) :
    Ahead data whole (Dissector.consult deeper ⟨data, offset, id, inquiry⟩ d).1
      (Dissector.consult deeper ⟨whole, offset, id, inquiry⟩ u).1 := by
  unfold Dissector.consult
  rw [h.registry_eq]
  dsimp only
  split
  · next registry found =>
    refine askAll evolving leading offset id _ ?_ h left
    intro entry member
    exact h.lasts registry found (id, entry.2) (Registry.mem_of_mem_handlers member)
  · exact h
  · exact h

/-- Following a level finds no more spans in the fewer octets. -/
theorem recordCount_follow_le (growing : deeper.Growing) (idle : deeper.Idle)
    {short long : Reading} (cut : Reading.Cut data.size whole.size short long)
    (sound : ∀ step ∈ short.steps, step.Sound data.size) (h : Ahead data whole d u)
    (left : d.levelsLeft = levels) :
    (Dissector.follow deeper data short d).dissector.recordCount ≤
      (Dissector.follow deeper whole long u).dissector.recordCount := by
  -- Induction on the ways in which the readings may differ, as for `Lockstep.heads_follow`.
  induction cut generalizing d u with
  | ends ending =>
    cases ending with
    | complete | stopped => exact h.recordCount_le
    | encapsulated entry offset => exact (leading entry data whole offset d u left h).recordCount_le
    | consult id offset inquiry =>
      exact (consult evolving leading offset id inquiry h left).recordCount_le
  | barren nothing =>
    exact h.recordCount_le_of_spans (Dissector.follow_barren idle nothing h.restful)
      (Dissector.carried_prefix.follow growing whole _ u)
  | after within rest ih =>
    rw [Reading.steps_after, List.forall_mem_append] at sound
    rw [Dissector.follow_after, Dissector.follow_after]
    exact ih sound.2 (h.takeAll sound.1) ((d.evolves_takeAll sound.1).levelsLeft_eq.trans left)
  | last found inside nothing =>
    rw [Reading.steps_after, List.forall_mem_append] at sound
    exact recordCount_parted growing idle h sound.1 nothing (h.addSpan_found inside)
  | @chained base front rear rear' length length' short long header inside within beyond nothing =>
    rw [Reading.steps_after, List.forall_mem_append] at sound
    exact recordCount_parted growing idle h sound.1 nothing
      (h.takeChained base front beyond rear' length length')

/-- Following the readings of a level. -/
theorem follow (growing : deeper.Growing) (idle : deeper.Idle) {short long : Reading}
    (cut : Reading.Cut data.size whole.size short long) (sound : short.Sound data.size)
    (sound' : long.Sound whole.size) (h : Ahead data whole d u) (left : d.levelsLeft = levels) :
    Ahead data whole (Dissector.follow deeper data short d).dissector
      (Dissector.follow deeper whole long u).dissector :=
  h.evolve (Dissector.evolves_follow evolving data sound left)
    (Dissector.evolves_follow evolving whole sound' (h.levelsLeft_eq.trans left))
    (recordCount_follow_le evolving leading growing idle cut sound.steps h left)

end Walk

/-- Entering encapsulated packets, however many levels are left. -/
theorem leading_descend (levels : Nat) : Descent.Leading levels (Dissector.descend levels) := by
  -- Induction on the levels that are left, as for `Dissector.evolves_descend`.
  induction levels with
  | zero => exact fun entry data whole offset d u _ h => h
  | succ levels ih =>
    intro entry data whole offset d u left h
    exact (follow (Dissector.evolves_descend levels) ih (Dissector.growing_descend levels)
      (Dissector.idle_descend levels) (Reading.cut_read h.begins offset entry)
      (Reading.sound_read data entry offset) (Reading.sound_read whole entry offset) h.enter
      (Dissector.levelsLeft_enter left)).leave

/-- Dissecting captures. -/
theorem dissectCapture {data whole : Octets} {d u : Dissector} (h : Ahead data whole d u) :
    Ahead data whole (d.dissectCapture data).dissector (u.dissectCapture whole).dissector := by
  unfold Dissector.dissectCapture
  rw [h.levelsLeft_eq, h.config_eq]
  exact follow (Dissector.evolves_descend _) (leading_descend _) (Dissector.growing_descend _)
    (Dissector.idle_descend _) (Reading.cut_readLink h.begins d.config.link)
    (Dissector.sound_readLink d.config.link data) (Dissector.sound_readLink d.config.link whole)
    h rfl

end Ahead

/-! ## Captures -/

namespace Dissector

/-- With no handlers or with tunnel handlers, a dissection of more octets of a packet that fits into
a span finds no fewer spans than one of fewer octets. -/
theorem recordCount_le_of_longer_capture {d : Dissector}
    (handlers : ∀ registry, d.registry = some registry →
      ∀ entry ∈ registry.entries, Tunnel.IsHandler entry.2)
    {frame : Octets} (small : frame.size ≤ Span.maxLength) {shorter longer : Nat}
    (le : shorter ≤ longer) (held : longer ≤ frame.size) {wireLength wireLength' : Nat}
    (wired : shorter ≤ wireLength) (wired' : longer ≤ wireLength') (timestamp timestamp' : UInt64) :
    ∃ part all,
      d.reset.dissect frame shorter wireLength timestamp = .ok part ∧
      d.reset.dissect frame longer wireLength' timestamp' = .ok all ∧
      part.1.recordCount ≤ all.1.recordCount := by
  have idle : d.Restful := fun registry found entry member =>
    (handlers registry found entry member).idle
  have begun : Ahead (frame.extract 0 shorter) (frame.extract 0 longer)
      (d.reset.started shorter wireLength timestamp)
      (d.reset.started longer wireLength' timestamp') :=
    { shortened_started idle small le held wireLength wireLength' timestamp timestamp' with
      lasts := fun registry found entry member => (handlers registry found entry member).lasts
      recordCount_le := Nat.le_refl _ }
  refine ⟨_, _, dissect_held (Nat.le_trans le held) wired timestamp,
    dissect_held held wired' timestamp', ?_⟩
  rw [Outcome.dissector_closed, Outcome.dissector_closed]
  exact begun.dissectCapture.recordCount_le

/-- Two handlers are asked about this datagram. In the fewer octets the frame behind the VXLAN header
is cut, and the header that the other handler records at the same position comes next. In the more
octets it comes behind what is found inside. -/
theorem recordCount_le_of_two_handlers :
    let octets : List UInt8 := List.replicate 12 2 ++ [8, 0] ++
      [0x45, 0, 0, 50, 0, 0, 0, 0, 64, 17, 0, 0, 10, 0, 0, 1, 10, 0, 0, 2] ++
      [0x11, 0x94, 0x12, 0xb5, 0, 30, 0, 0] ++ [8, 0, 0, 0, 0, 0, 1, 0] ++
      List.replicate 12 3 ++ [0x88, 0xb5]
    let frame : Octets := octets.toArray
    let registry : Registry := ⟨Tunnel.handlers, by decide⟩
    let d : Dissector := { registry := some registry }
    frame.size ≤ Span.maxLength ∧ 60 ≤ 64 ∧ 64 ≤ frame.size ∧ 60 ≤ 64 ∧ 64 ≤ 64 ∧
      ∃ part all, d.reset.dissect frame 60 64 0 = .ok part ∧
        d.reset.dissect frame 64 64 0 = .ok all ∧
        part.1.recordCount ≤ all.1.recordCount ∧
        part.1.spans.drop 3 = [⟨Tunnel.vxlanId, 42, 8⟩, ⟨Tunnel.espId, 42, 8⟩] ∧
        all.1.spans.drop 3 =
          [⟨Tunnel.vxlanId, 42, 8⟩, ⟨.ethernet, 50, 14⟩, ⟨Tunnel.espId, 42, 8⟩] := by
  intro octets frame registry d
  have tunnels : ∀ found, d.registry = some found → ∀ entry ∈ found.entries,
      Tunnel.IsHandler entry.2 := by
    rintro found ⟨⟩ entry member
    exact Tunnel.isHandler_of_mem_handlers member
  have small : frame.size ≤ Span.maxLength := by decide
  have held : 64 ≤ frame.size := by decide
  obtain ⟨part, all, dissected, whole, counts⟩ :=
    recordCount_le_of_longer_capture tunnels small (by decide : 60 ≤ 64) held
      (by decide : 60 ≤ 64) (by decide : 64 ≤ 64) 0 0
  have found : (d.reset.dissect frame 60 64 0).toOption.map
      (fun part => decide (part.1.spans.drop 3 =
        [⟨Tunnel.vxlanId, 42, 8⟩, ⟨Tunnel.espId, 42, 8⟩])) = some true := by
    decide +kernel
  have found' : (d.reset.dissect frame 64 64 0).toOption.map
      (fun all => decide (all.1.spans.drop 3 =
        [⟨Tunnel.vxlanId, 42, 8⟩, ⟨.ethernet, 50, 14⟩, ⟨Tunnel.espId, 42, 8⟩])) =
      some true := by
    decide +kernel
  rw [dissected] at found
  rw [whole] at found'
  exact ⟨small, by decide, held, by decide, by decide, part, all, dissected, whole, counts,
    of_decide_eq_true (Option.some.inj found), of_decide_eq_true (Option.some.inj found')⟩

end Dissector

end FrameSpans
