import FrameSpans.Proofs.Dissector.Relocation
import FrameSpans.Proofs.Dissector.Steps

/-!
# Bridged frames

The Ethernet type of bridging names a frame, so a packet of that type is dissected like the frame it
is, with one difference: the type is a level of its own, and the frame inside it another one. A
bridged frame is dissected like a frame for which one level less is left
(`Dissector.bridged_eq_frame`). That makes no difference as long as the levels suffice, but at the
last level a frame is dissected and a bridged frame is not (`Dissector.bridged_frame_left_aside`).

Two facts carry this. Levels that are not needed change nothing (`Dissector.prolonged_descend`). And
below the outermost level the depth is only a number: at another depth, with as many levels left,
the same is recorded and the same handlers are asked (`Dissector.depthless_descend`).
-/

namespace FrameSpans

/-! ## Levels to spare -/

/-- No packet was left aside because the depth was exhausted. -/
def Unexhausted (events : List Event) : Prop :=
  ∀ depth, .depthReached depth ∉ events

namespace Unexhausted

variable {events more : List Event}

/-- The same holds of a part of what happened. -/
theorem subset (h : Unexhausted events) (part : more ⊆ events) : Unexhausted more :=
  fun depth found => h depth (part found)

/-- The same holds of the first and of the second part of what happened. -/
theorem parts (h : Unexhausted (events ++ more)) : Unexhausted events ∧ Unexhausted more :=
  ⟨h.subset (List.subset_append_left _ _), h.subset (List.subset_append_right _ _)⟩

end Unexhausted

/-- Where no packet is left aside, a further descent comes to the same. -/
def Descent.Prolonged (deeper further : Descent) : Prop :=
  ∀ (entry : Entry) (data : Octets) (offset : Nat) (d : Dissector),
    Unexhausted (deeper entry data offset d).events →
      further entry data offset d = deeper entry data offset d

section Prolonged

variable {deeper further : Descent} (prolonged : Descent.Prolonged deeper further)

include prolonged

/-- What is dissected on behalf of a handler comes to the same. -/
theorem Dissector.reenter_prolonged {d : Dissector} {inner : Encapsulation} {data : Octets}
    {offset : Nat} (enough : Unexhausted (d.reenter deeper inner data offset).2) :
    d.reenter further inner data offset = d.reenter deeper inner data offset := by
  rw [reenter_eq_closed, reenter_eq_closed]
  rw [reenter_eq_closed] at enough
  rw [prolonged _ _ _ _ (enough.subset (Outcome.events_subset_closed _ _))]

/-- The requests of a handler come to the same. -/
theorem Program.run_prolonged (program : Program) {d : Dissector}
    (enough : Unexhausted (program.run deeper d).2) :
    program.run further d = program.run deeper d := by
  induction program generalizing d with
  | done | fault => rfl
  | note text next ih =>
    unfold run
    rw [ih (enough.subset (List.subset_cons_self _ _))]
  | captureLength next ih => exact ih d.captureLength enough
  | addSpan span next ih =>
    unfold run at enough ⊢
    split
    · next recorded offered =>
      rw [offered] at enough
      rw [ih true (enough.subset (List.subset_cons_self _ _))]
    · next reason refused =>
      rw [refused] at enough
      rw [ih false (enough.subset (List.subset_cons_self _ _))]
  | dissect inner data offset next ih =>
    have first : Unexhausted (d.reenter deeper inner data offset).2 := enough.parts.1
    have rest : Unexhausted (next.run deeper (d.reenter deeper inner data offset).1).2 :=
      enough.parts.2
    unfold run
    rw [Dissector.reenter_prolonged prolonged first]
    dsimp only
    rw [ih rest]

namespace Dissector

/-- Handlers that are asked one after the other come to the same. -/
theorem askAll_prolonged (call : Consultation) (handlers : List (Nat × Handler)) {d : Dissector}
    (enough : Unexhausted (askAll deeper call handlers d).2) :
    askAll further call handlers d = askAll deeper call handlers d := by
  induction handlers generalizing d with
  | nil => rfl
  | cons entry rest ih =>
    obtain ⟨slot, handler⟩ := entry
    have first : Unexhausted ((handler call).run deeper d).2 :=
      enough.parts.1.subset (List.subset_cons_self (Event.asked slot call) _)
    have others : Unexhausted (askAll deeper call rest ((handler call).run deeper d).1).2 :=
      enough.parts.2
    unfold askAll
    rw [(handler call).run_prolonged prolonged first]
    dsimp only
    rw [ih others]

/-- The handlers of a registry come to the same. -/
theorem consult_prolonged (call : Consultation) {d : Dissector}
    (enough : Unexhausted (consult deeper call d).2) :
    consult further call d = consult deeper call d := by
  unfold consult at enough ⊢
  split at enough
  · exact askAll_prolonged prolonged call _ enough
  · rfl
  · rfl

/-- Following a reading comes to the same. -/
theorem follow_prolonged (data : Octets) (reading : Reading) {d : Dissector}
    (enough : Unexhausted (follow deeper data reading d).events) :
    follow further data reading d = follow deeper data reading d := by
  unfold follow at enough ⊢
  dsimp only at enough ⊢
  split
  · rfl
  · rfl
  · next entry offset ending =>
    rw [ending] at enough
    rw [prolonged _ _ _ _ enough.parts.2]
  · next id offset inquiry ending =>
    rw [ending] at enough
    rw [consult_prolonged prolonged _ enough.parts.2]

end Dissector

end Prolonged

/-- One level more changes nothing where no packet was left aside. -/
theorem Dissector.prolonged_descend (levels : Nat) :
    Descent.Prolonged (descend levels) (descend (levels + 1)) := by
  -- Induction on the levels that are left: what was enough for a level was enough inside.
  induction levels with
  | zero => exact fun _ _ _ d enough => absurd (List.mem_singleton.mpr rfl) (enough d.depth)
  | succ levels ih =>
    intro entry data offset d enough
    have inside := (enough.parts.1.subset (List.subset_cons_self _ _))
    have same := follow_prolonged ih data (Reading.read entry data offset) inside
    rw [descend, same]
    rfl

/-! ## Depths below the outermost level -/

/-- The handler that an event says was asked, and what it was asked. -/
def Event.call? : Event → Option (Nat × Consultation)
  | .asked slot call => some (slot, call)
  | _ => none

/-- The handlers that were asked, in order, and what they were asked. -/
def calls (events : List Event) : List (Nat × Consultation) :=
  events.filterMap Event.call?

/-- The calls of events in a row. -/
@[simp] theorem calls_append (events more : List Event) :
    calls (events ++ more) = calls events ++ calls more :=
  List.filterMap_append

/-- Entering and leaving a packet calls nobody. -/
@[simp] theorem calls_nested (depth : Nat) (events : List Event) :
    calls (.entered depth :: events ++ [.left]) = calls events := by
  rw [calls_append]
  exact List.append_nil _

/-- Telling why reading stopped calls nobody. -/
@[simp] theorem Outcome.calls_closed (branch : Branch) (outcome : Outcome) :
    calls (outcome.closed branch).2 = calls outcome.events := by
  unfold closed
  split
  · rfl
  · rw [calls_append]
    exact List.append_nil _

/-- The steps of a reading call nobody. -/
theorem Dissector.calls_takeAll (d : Dissector) (steps : List Step) :
    calls (d.takeAll steps).2 = [] := by
  refine List.filterMap_eq_nil_iff.mpr fun event member => ?_
  have ofStep := d.ofStep_takeAll steps event member
  cases event with
  | asked => exact ofStep.elim
  | _ => rfl

/-- What is dissected on behalf of a handler leaves what the packet leaves. -/
theorem Dissector.dissector_reenter (deeper : Descent) (d : Dissector) (inner : Encapsulation)
    (data : Octets) (offset : Nat) :
    (d.reenter deeper inner data offset).1 =
      (deeper inner.entry (data.upTo d.captureLength) offset d).dissector := by
  rw [reenter_eq_closed, Outcome.dissector_closed]

/-- What is dissected on behalf of a handler calls whom the packet calls. -/
theorem Dissector.calls_reenter (deeper : Descent) (d : Dissector) (inner : Encapsulation)
    (data : Octets) (offset : Nat) :
    calls (d.reenter deeper inner data offset).2 =
      calls (deeper inner.entry (data.upTo d.captureLength) offset d).events := by
  rw [reenter_eq_closed, Outcome.calls_closed]

/-- The same dissector at two depths. -/
structure Dissector.Elsewhere (depth depth' : Nat) (d d' : Dissector) : Prop where
  /-- The first one is at the first depth. -/
  depth_eq : d.depth = depth
  /-- The second one is the first one at the second depth. -/
  eq_relocate : d' = d.relocate d.registry depth'

/-- The number of captured octets is the same elsewhere. -/
theorem Dissector.Elsewhere.captureLength_eq {depth depth' : Nat} {d d' : Dissector}
    (h : d.Elsewhere depth depth' d') : d'.captureLength = d.captureLength := by
  rw [h.eq_relocate]
  rfl

/-- The handlers are the same elsewhere. -/
theorem Dissector.Elsewhere.registry_eq {depth depth' : Nat} {d d' : Dissector}
    (h : d.Elsewhere depth depth' d') : d'.registry = d.registry := by
  rw [h.eq_relocate]
  rfl

/-- The same dissector at two depths, behind the same calls. -/
structure Traced.Alike (depth depth' : Nat) (traced traced' : Traced) : Prop where
  /-- What is known of the packet is the same. -/
  dissector : traced.1.Elsewhere depth depth' traced'.1
  /-- The calls are the same. -/
  calls_eq : calls traced'.2 = calls traced.2

/-- The same outcome at two depths, behind the same calls. -/
structure Outcome.Alike (depth depth' : Nat) (outcome outcome' : Outcome) : Prop where
  /-- What is known of the packet is the same. -/
  dissector : outcome.dissector.Elsewhere depth depth' outcome'.dissector
  /-- The calls are the same. -/
  calls_eq : calls outcome'.events = calls outcome.events
  /-- Reading stopped for the same reason, or did not stop. -/
  stop_eq : outcome'.stop = outcome.stop

/-- Descending comes to the same at any depth. -/
def Descent.Depthless (deeper : Descent) : Prop :=
  ∀ (entry : Entry) (data : Octets) (offset : Nat) {depth depth' : Nat} {d d' : Dissector},
    d.Elsewhere depth depth' d' →
      (deeper entry data offset d).Alike depth depth' (deeper entry data offset d')

section Depthless

variable {deeper : Descent} (depthless : deeper.Depthless) {depth depth' : Nat} {d d' : Dissector}

include depthless

/-- What is dissected on behalf of a handler is the same at any depth. -/
theorem Dissector.reenter_depthless (h : d.Elsewhere depth depth' d') (inner : Encapsulation)
    (data : Octets) (offset : Nat) :
    Traced.Alike depth depth' (d.reenter deeper inner data offset)
      (d'.reenter deeper inner data offset) := by
  obtain ⟨same, asked, -⟩ := depthless inner.entry (data.upTo d.captureLength) offset h
  constructor
  · rw [dissector_reenter, dissector_reenter, h.captureLength_eq]
    exact same
  · rw [calls_reenter, calls_reenter, h.captureLength_eq]
    exact asked

/-- The requests of a handler are granted alike at any depth. -/
theorem Program.run_depthless (program : Program) (h : d.Elsewhere depth depth' d') :
    Traced.Alike depth depth' (program.run deeper d) (program.run deeper d') := by
  induction program generalizing d d' with
  | done | fault => exact ⟨h, rfl⟩
  | note text next ih =>
    obtain ⟨last, more⟩ := ih h
    exact ⟨last, more⟩
  | captureLength next ih =>
    unfold run
    rw [h.captureLength_eq]
    exact ih d.captureLength h
  | addSpan span next ih =>
    have same : d'.offer span = (d.offer span).map (·.relocate d.registry depth') := by
      rw [h.eq_relocate, Dissector.offer_relocate]
    unfold run
    rw [same]
    cases offered : d.offer span with
    | error reason =>
      obtain ⟨last, more⟩ := ih false h
      exact ⟨last, more⟩
    | ok recorded =>
      have kept := (Evolves.store offered).keeps
      have stored :
          recorded.Elsewhere depth depth' (recorded.relocate d.registry depth') :=
        ⟨kept.depth_eq.trans h.depth_eq, by rw [kept.registry_eq]⟩
      obtain ⟨last, more⟩ := ih true stored
      exact ⟨last, more⟩
  | dissect inner data offset next ih =>
    obtain ⟨first, asked⟩ := Dissector.reenter_depthless depthless h inner data offset
    obtain ⟨last, more⟩ := ih first
    unfold run
    refine ⟨last, ?_⟩
    dsimp only
    rw [calls_append, calls_append, asked, more]

namespace Dissector

/-- Handlers that are asked one after the other do the same at any depth. -/
theorem askAll_depthless (call : Consultation) (handlers : List (Nat × Handler))
    (h : d.Elsewhere depth depth' d') :
    Traced.Alike depth depth' (askAll deeper call handlers d)
      (askAll deeper call handlers d') := by
  induction handlers generalizing d d' with
  | nil => exact ⟨h, rfl⟩
  | cons entry rest ih =>
    obtain ⟨slot, handler⟩ := entry
    obtain ⟨first, asked⟩ := (handler call).run_depthless depthless h
    obtain ⟨last, more⟩ := ih first
    unfold askAll
    refine ⟨last, ?_⟩
    dsimp only
    rw [calls_append, calls_append, more]
    exact congrArg (fun asked => (slot, call) :: asked ++ _) asked

/-- The handlers of a registry do the same at any depth. -/
theorem consult_depthless (call : Consultation) (h : d.Elsewhere depth depth' d') :
    Traced.Alike depth depth' (consult deeper call d) (consult deeper call d') := by
  unfold consult
  rw [h.registry_eq]
  split
  · exact askAll_depthless depthless call _ h
  · exact ⟨h, rfl⟩
  · exact ⟨h, rfl⟩

/-- A reading is followed alike at any depth, except that no other depth is like the outermost
level. -/
theorem follow_depthless (data : Octets) {size : Nat} {reading : Reading}
    (sound : reading.Sound size) (h : d.Elsewhere depth depth' d')
    (level : depth' = 0 ↔ depth = 0) :
    (follow deeper data reading d).Alike depth depth' (follow deeper data reading d') := by
  obtain ⟨rfl, rfl⟩ := h
  have taken := takeAll_relocate d.registry level sound.steps
  have kept := (d.evolves_takeAll sound.steps).keeps
  have same : Elsewhere d.depth depth' (d.takeAll reading.steps).1
      ((d.relocate d.registry depth').takeAll reading.steps).1 :=
    ⟨kept.depth_eq, by rw [taken, kept.registry_eq]⟩
  have silent : calls ((d.relocate d.registry depth').takeAll reading.steps).2 =
      calls (d.takeAll reading.steps).2 := by
    rw [calls_takeAll, calls_takeAll]
  unfold follow
  dsimp only
  split
  · exact ⟨same, silent, rfl⟩
  · exact ⟨same, silent, rfl⟩
  · next entry offset ending =>
    obtain ⟨last, asked, stop⟩ := depthless entry data offset same
    refine ⟨last, ?_, stop⟩
    dsimp only [Outcome.after]
    rw [calls_append, calls_append, silent, asked]
  · next id offset inquiry ending =>
    obtain ⟨last, asked⟩ := consult_depthless depthless ⟨data, offset, id, inquiry⟩ same
    refine ⟨last, ?_, rfl⟩
    dsimp only
    rw [calls_append, calls_append, silent, asked]

end Dissector

end Depthless

/-- Encapsulated packets are dissected alike at any depth, as long as equally many levels are
left. -/
theorem Dissector.depthless_descend (levels : Nat) : Descent.Depthless (descend levels) := by
  -- Induction on the levels that are left. A packet that is entered is not at the outermost level.
  induction levels with
  | zero => exact fun _ _ _ _ _ _ _ same => ⟨same, rfl, rfl⟩
  | succ levels ih =>
    intro entry data offset depth depth' d d' same
    obtain ⟨rfl, rfl⟩ := same
    have entered : Elsewhere (d.depth + 1) (depth' + 1) { d with depth := d.depth + 1 }
        { d.relocate d.registry depth' with depth := depth' + 1 } := ⟨rfl, rfl⟩
    obtain ⟨⟨depth_eq, last⟩, asked, stop⟩ := follow_depthless ih data
      (Reading.sound_read data entry offset) entered (by omega)
    refine ⟨⟨?_, ?_⟩, ?_, stop⟩
    · show (follow (descend levels) data _ _).dissector.depth - 1 = d.depth
      rw [depth_eq, Nat.add_sub_cancel]
    · exact congrArg (fun d : Dissector => { d with depth := d.depth - 1 }) last
    · exact (calls_nested _ _).trans (asked.trans (calls_nested _ _).symm)

/-! ## Bridged frames -/

namespace Dissector

/-- With a level left for the bridging type, a bridged frame comes to what any outcome comes to that
is like that of the frame one level further in. -/
theorem bridged_of_alike {levels : Nat} {data : Octets} {offset : Nat} {d : Dissector}
    {outcome : Outcome}
    (alike : outcome.Alike d.depth (d.depth + 1)
      (descend levels .ethernet data offset { d with depth := d.depth + 1 })) :
    let bridged := descend (levels + 1) (.etherType (.ofValue 0x6558)) data offset d
    bridged.dissector = outcome.dissector ∧ calls bridged.events = calls outcome.events := by
  intro bridged
  obtain ⟨⟨here, further⟩, asked, -⟩ := alike
  refine ⟨?_, (calls_nested _ _).trans asked⟩
  -- The frame is left, and then the packet: the depth is back where it was.
  have left : bridged.dissector = { outcome.dissector with depth := d.depth + 1 - 1 } :=
    congrArg (fun d : Dissector => { d with depth := d.depth - 1 }) further
  rw [left, Nat.add_sub_cancel, ← here]

/-- With a level left for the bridging type, a bridged frame is dissected like a frame with one level
less, and like a frame with as many levels if they suffice for it. -/
theorem descend_bridged (levels : Nat) (data : Octets) (offset : Nat) (d : Dissector) :
    let bridged := descend (levels + 1) (.etherType (.ofValue 0x6558)) data offset d
    let frame := descend (levels + 1) .ethernet data offset d
    let shallow := descend levels .ethernet data offset d
    (bridged.dissector = shallow.dissector ∧ calls bridged.events = calls shallow.events) ∧
      (Unexhausted bridged.events →
        bridged.dissector = frame.dissector ∧ calls bridged.events = calls frame.events) := by
  intro bridged frame shallow
  have entered : Elsewhere d.depth (d.depth + 1) d { d with depth := d.depth + 1 } := ⟨rfl, rfl⟩
  refine ⟨bridged_of_alike (depthless_descend levels .ethernet data offset entered), ?_⟩
  intro enough
  have inside :
      Unexhausted (descend levels .ethernet data offset { d with depth := d.depth + 1 }).events :=
    enough.parts.1.subset (List.subset_cons_self _ _)
  have alike := depthless_descend (levels + 1) .ethernet data offset entered
  -- The levels sufficed for the frame inside, so it comes to the same with one more.
  rw [prolonged_descend levels .ethernet data offset _ inside] at alike
  exact bridged_of_alike alike

/-- A packet of the bridging type is dissected like a frame for which one level less is left: what is
known of the packet is the same, and so are the calls of handlers. It is dissected like any frame if
no level is left, or if the levels suffice for all that is in it. -/
theorem bridged_eq_frame (d : Dissector) (data : Octets) (offset : Nat) :
    let bridged := d.dissectInner (.payload (.ofValue 0x6558)) data offset
    let frame := d.dissectInner .frame data offset
    let shallow := d.reenter (descend (d.levelsLeft - 1)) .frame data offset
    (bridged.1 = shallow.1 ∧ calls bridged.2 = calls shallow.2) ∧
      (d.levelsLeft = 0 ∨ Unexhausted bridged.2 →
        bridged.1 = frame.1 ∧ calls bridged.2 = calls frame.2) := by
  intro bridged frame shallow
  unfold bridged frame shallow dissectInner
  cases left : d.levelsLeft with
  | zero => exact ⟨⟨rfl, rfl⟩, fun _ => ⟨rfl, rfl⟩⟩
  | succ levels =>
    obtain ⟨less, same⟩ := descend_bridged levels (data.upTo d.captureLength) offset d
    rw [Nat.add_sub_cancel]
    simp only [dissector_reenter, calls_reenter]
    refine ⟨less, ?_⟩
    rintro (none | enough)
    · cases none
    · exact same (enough.subset (Outcome.events_subset_closed _ _))

/-- A frame of a type that a handler is registered for. With two levels left, the header is recorded
and the handler records what is behind it, whether or not the frame is bridged. -/
theorem bridged_eq_frame_handled :
    let data : Octets := #[2, 0, 0, 0, 0, 1, 2, 0, 0, 0, 0, 2, 0x88, 0xb5, 0]
    let handler : Handler := fun call => .addSpan ⟨.extension 0, call.offset, 1⟩ fun _ => .done
    let d : Dissector :=
      { config := { maxDepth := 2 }, registry := some ⟨[(.ethernet, handler)], by decide⟩,
        captureLength := 15, wireLength := 15 }
    let bridged := d.dissectInner (.payload (.ofValue 0x6558)) data 0
    let frame := d.dissectInner .frame data 0
    (d.levelsLeft = 0 ∨ Unexhausted bridged.2) ∧
      bridged.1 = frame.1 ∧ calls bridged.2 = calls frame.2 ∧
      bridged.1.spans = [⟨.ethernet, 0, 14⟩, ⟨.extension 0, 14, 1⟩] ∧
      calls bridged.2 = [(0, ⟨data, 14, .ethernet, .nextHeader 0x88b5⟩)] := by
  intro data handler d bridged frame
  have told : bridged.2 = [.entered 1, .entered 2, .stored ⟨.ethernet, 0, 14⟩,
      .asked 0 ⟨data, 14, .ethernet, .nextHeader 0x88b5⟩, .stored ⟨.extension 0, 14, 1⟩, .left,
      .left] := by
    decide +kernel
  have enough : d.levelsLeft = 0 ∨ Unexhausted bridged.2 := by
    refine .inr fun depth found => ?_
    rw [told] at found
    simp at found
  obtain ⟨state, asked⟩ := (bridged_eq_frame d data 0).2 enough
  exact ⟨enough, state, asked, by decide +kernel, by rw [told]; rfl⟩

/-- With one level left, a frame is dissected, and a bridged one is not. -/
theorem bridged_frame_left_aside :
    let data : Octets := #[2, 0, 0, 0, 0, 1, 2, 0, 0, 0, 0, 2, 0x88, 0xb5, 0]
    let d : Dissector :=
      { config := { link := .rawIp, maxDepth := 1 }, captureLength := 15, wireLength := 15 }
    let bridged := d.dissectInner (.payload (.ofValue 0x6558)) data 0
    let frame := d.dissectInner .frame data 0
    bridged.1.spans = [] ∧ frame.1.spans = [⟨.ethernet, 0, 14⟩] ∧
      bridged.1.scalars.bitmask ≠ frame.1.scalars.bitmask := by
  decide +kernel

end Dissector

end FrameSpans
