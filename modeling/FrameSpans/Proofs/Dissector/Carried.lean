import FrameSpans.Dissector.Descent
import FrameSpans.Proofs.Dissector.Recording

/-!
# What a walk carries through

Much of what is true of a dissection relates the dissector before it to the one behind it, and is
true of the whole because it is true of the parts. What handlers ask for is granted in parts: spans
are offered, and packets are dissected (`Dissector.Granted`). A walk has more parts: flags are set,
the record of a header is widened when its chain was read, and packets are entered and left
(`Dissector.Carried`). What holds of all parts holds of every walk (`Dissector.Carried.descend`): the
inductions over the marks of a chain, the steps of a reading, the requests of a handler, the handlers
that are asked and the levels that are left are made here once.

Requests and marks only append to the table (`Dissector.granted_prefix`), which tells where the record
of a header stands when it is widened.
-/

namespace FrameSpans

/-- A relation between a dissector and what becomes of it which the requests of handlers keep. -/
structure Dissector.Granted (R : Dissector → Dissector → Prop) : Prop where
  /-- It holds if nothing happens. -/
  refl : ∀ d, R d d
  /-- It holds of one change behind another. -/
  trans : ∀ {d d₁ d₂}, R d d₁ → R d₁ d₂ → R d d₂
  /-- It holds of a span that is recorded. -/
  offer : ∀ {d recorded span}, d.offer span = .ok recorded → R d recorded

/-- A relation between a dissector and what becomes of it which a walk carries through. -/
structure Dissector.Carried (R : Dissector → Dissector → Prop) : Prop extends
    Dissector.Granted R where
  /-- It holds of a packet that is marked as a fragment. -/
  fragment : ∀ d isLast, R d (d.setFragment isLast)
  /-- It holds of the framing that is set. -/
  framing : ∀ d type, R d (d.setFraming type)
  /-- It holds on when the record of a header is widened, behind which others were recorded. -/
  widen : ∀ {d marked widened base length}, d.spans ++ [base] <+: marked.spans → R d marked →
    marked.widen d.recordCount { base with length } = .ok widened → R d widened
  /-- It holds of a packet that is entered and left if it holds inside. -/
  nested : ∀ {d d'}, R { d with depth := d.depth + 1 } d' → R d { d' with depth := d'.depth - 1 }

/-! ## Marks -/

namespace Dissector

namespace Granted

variable {R : Dissector → Dissector → Prop} (granted : Granted R)

include granted

/-- The relation holds of a span that is offered. -/
theorem addSpan (d : Dissector) (span : Span) : R d (d.addSpan span).1 := by
  unfold Dissector.addSpan
  split
  · next recorded offered => exact granted.offer offered
  · exact granted.refl d

/-- The relation holds of marks, if it holds of a packet that is marked as a fragment. -/
theorem takeMarks (fragment : ∀ d isLast, R d (d.setFragment isLast)) (d : Dissector)
    (marks : List Mark) : R d (d.takeMarks marks).1 := by
  induction marks generalizing d with
  | nil => exact granted.refl d
  | cons mark rest ih =>
    refine granted.trans (?_ : R d (d.takeMark mark).1) (ih _)
    cases mark with
    | fragment isLast => exact fragment d isLast
    | option span =>
      unfold takeMark
      dsimp only
      split
      · exact granted.addSpan d span
      · exact granted.refl d

end Granted

/-- What handlers ask for leaves the spans before it as they are. -/
theorem granted_prefix : Granted fun d d' => d.spans <+: d'.spans where
  refl d := List.prefix_refl d.spans
  trans := List.IsPrefix.trans
  offer offered := by
    rw [spans_of_offer offered]
    exact List.prefix_append _ _

/-- Marks leave the spans before them as they are. -/
theorem prefix_takeMarks (d : Dissector) (marks : List Mark) :
    d.spans <+: (d.takeMarks marks).1.spans :=
  granted_prefix.takeMarks (fun d _ => List.prefix_refl d.spans) d marks

end Dissector

/-! ## Steps -/

namespace Dissector.Carried

variable {R : Dissector → Dissector → Prop} (carried : Carried R)

include carried

/-- The relation holds of a header with its chain. -/
theorem takeChained (d : Dissector) (base : Span) (marks : List Mark) (length : Nat) :
    R d (d.takeChained base marks length).1 := by
  have marked (d : Dissector) := carried.takeMarks carried.fragment d marks
  unfold Dissector.takeChained
  split
  · exact marked d
  · next recorded offered =>
    have all := carried.trans (carried.offer offered) (marked recorded)
    have stands : d.spans ++ [base] <+: (recorded.takeMarks marks).1.spans := by
      rw [← spans_of_offer offered]
      exact recorded.prefix_takeMarks marks
    dsimp only
    split
    · exact all
    · unfold updateSpan
      split
      · next widened exchanged => exact carried.widen stands all exchanged
      · exact all

/-- The relation holds of a step. -/
theorem take (d : Dissector) (step : Step) : R d (d.take step).1 := by
  cases step with
  | header span => exact carried.addSpan d span
  | mark mark => exact carried.takeMarks carried.fragment d [mark]
  | chained base marks length => exact carried.takeChained d base marks length
  | framing type => exact carried.framing d type
  | payload | remark => exact carried.refl d

/-- The relation holds of the steps of a reading. -/
theorem takeAll (d : Dissector) (steps : List Step) : R d (d.takeAll steps).1 := by
  induction steps generalizing d with
  | nil => exact carried.refl d
  | cons step rest ih => exact carried.trans (carried.take d step) (ih _)

end Dissector.Carried

/-- The relation holds of packets that are dissected one level deeper. -/
def Descent.Carries (R : Dissector → Dissector → Prop) (deeper : Descent) : Prop :=
  ∀ (entry : Entry) (data : Octets) (offset : Nat) (d : Dissector),
    R d (deeper entry data offset d).dissector

/-! ## Handlers -/

namespace Dissector.Granted

variable {R : Dissector → Dissector → Prop} {deeper : Descent} (inside : deeper.Carries R)

include inside

/-- The relation holds of an encapsulated packet that is dissected on behalf of a handler. -/
theorem reenter (d : Dissector) (inner : Encapsulation) (data : Octets) (offset : Nat) :
    R d (d.reenter deeper inner data offset).1 := by
  have entered := inside inner.entry (data.upTo d.captureLength) offset d
  unfold Dissector.reenter
  dsimp only
  split
  · exact entered
  · exact entered

variable (granted : Granted R)

include granted

/-- The relation holds of the requests of a handler. -/
theorem run (program : Program) (d : Dissector) : R d (program.run deeper d).1 := by
  induction program generalizing d with
  | done | fault => exact granted.refl d
  | note text next ih => exact ih d
  | captureLength next ih => exact ih d.captureLength d
  | addSpan span next ih =>
    unfold Program.run
    split
    · next recorded offered => exact granted.trans (granted.offer offered) (ih true recorded)
    · exact ih false d
  | dissect inner data offset next ih =>
    exact granted.trans (reenter inside d inner data offset) (ih _)

/-- The relation holds of handlers that are asked one after the other. -/
theorem askAll (call : Consultation) (handlers : List (Nat × Handler)) (d : Dissector) :
    R d (Dissector.askAll deeper call handlers d).1 := by
  induction handlers generalizing d with
  | nil => exact granted.refl d
  | cons entry rest ih => exact granted.trans (granted.run inside (entry.2 call) d) (ih _)

/-- The relation holds of the handlers of a registry. -/
theorem consult (call : Consultation) (d : Dissector) :
    R d (Dissector.consult deeper call d).1 := by
  unfold Dissector.consult
  split
  · exact granted.askAll inside call _ d
  · exact granted.refl d
  · exact granted.refl d

end Dissector.Granted

/-! ## Walks -/

namespace Dissector.Carried

variable {R : Dissector → Dissector → Prop} (carried : Carried R)

include carried

/-- The relation holds of a reading that is followed. -/
theorem follow {deeper : Descent} (inside : deeper.Carries R) (data : Octets) (reading : Reading)
    (d : Dissector) : R d (Dissector.follow deeper data reading d).dissector := by
  have taken := carried.takeAll d reading.steps
  unfold Dissector.follow
  dsimp only
  split
  · exact taken
  · exact taken
  · next entry offset ending => exact carried.trans taken (inside entry data offset _)
  · next id offset inquiry ending => exact carried.trans taken (carried.consult inside _ _)

/-- The relation holds of encapsulated packets, however many levels are left. -/
theorem descend (levels : Nat) : Descent.Carries R (Dissector.descend levels) := by
  -- Induction on the levels that are left: a level is followed with one level less.
  induction levels with
  | zero => exact fun _ _ _ d => carried.refl d
  | succ levels ih =>
    exact fun entry data offset d =>
      carried.nested (carried.follow ih data (Reading.read entry data offset) _)

/-- The relation holds of an encapsulated packet that is dissected on behalf of an owner. -/
theorem dissectInner (d : Dissector) (inner : Encapsulation) (data : Octets) (offset : Nat) :
    R d (d.dissectInner inner data offset).1 :=
  Granted.reenter (carried.descend d.levelsLeft) d inner data offset

/-- The relation holds of a capture. -/
theorem dissectCapture (d : Dissector) (data : Octets) :
    R d (d.dissectCapture data).dissector :=
  carried.follow (carried.descend d.levelsLeft) data (readLink d.config.link data) d

end Dissector.Carried

end FrameSpans
