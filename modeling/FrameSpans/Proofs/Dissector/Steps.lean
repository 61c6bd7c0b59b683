import FrameSpans.Dissector.Descent
import FrameSpans.Proofs.Dissector.Recording

/-!
# What steps leave in a trace

The steps of a reading record spans, set flags and note what was found, and no more: no packet is
entered and no handler asked while they are taken (`ofStep_takeAll`). A header with its chain of
extension headers leaves only events about spans and about the flags (`ofChain_takeChained`).

Both are cases of `forall_events_takeMarks` and `forall_events_takeAll`: what holds of all events of
one mark, or of one step, holds of all events of a run of them.
-/

namespace FrameSpans

/-- An event of a chain of extension headers: a span is recorded, widened or refused, or the flags
of the packet are set. -/
def Event.OfChain : Event → Prop
  | .stored _ | .widened .. | .refused .. | .fragment _ => True
  | _ => False

/-- An event of the steps of a reading: one of a chain, or a note of what was found. -/
def Event.OfStep : Event → Prop
  | .payload .. | .remark _ => True
  | event => event.OfChain

/-- What happens in a chain happens in the steps of a reading. -/
theorem Event.OfChain.ofStep {event : Event} (h : event.OfChain) : event.OfStep := by
  cases event with
  | payload | remark => trivial
  | _ => exact h

namespace Dissector

/-! ## Runs -/

/-- Marks are taken one run behind the other. -/
theorem takeMarks_append (d : Dissector) (front rear : List Mark) :
    d.takeMarks (front ++ rear) =
      (((d.takeMarks front).1.takeMarks rear).1,
        (d.takeMarks front).2 ++ ((d.takeMarks front).1.takeMarks rear).2) := by
  induction front generalizing d with
  | nil => rfl
  | cons mark rest ih => simp only [List.cons_append, takeMarks, ih, List.append_assoc]

/-- Steps are taken one run behind the other. -/
theorem takeAll_append (d : Dissector) (front rear : List Step) :
    d.takeAll (front ++ rear) =
      (((d.takeAll front).1.takeAll rear).1,
        (d.takeAll front).2 ++ ((d.takeAll front).1.takeAll rear).2) := by
  induction front generalizing d with
  | nil => rfl
  | cons step rest ih => simp only [List.cons_append, takeAll, ih, List.append_assoc]

/-- Following a reading behind steps is following it when these were taken. -/
theorem follow_after (deeper : Descent) (data : Octets) (steps : List Step) (rest : Reading)
    (d : Dissector) :
    follow deeper data (Reading.after steps rest) d =
      (follow deeper data rest (d.takeAll steps).1).after (d.takeAll steps).2 := by
  unfold follow
  rw [Reading.steps_after, Reading.ending_after, takeAll_append]
  cases rest.ending <;> simp only [Outcome.after, List.append_assoc]

section Runs

variable {P : Event → Prop}

/-- What holds of an offered span, whether it is accepted or refused, holds of what happens. -/
theorem forall_events_addSpan (d : Dissector) {span : Span}
    (offered : P (.stored span) ∧ ∀ reason, P (.refused span reason)) :
    ∀ event ∈ (d.addSpan span).2, P event := by
  unfold addSpan
  intro event member
  split at member
  · cases List.mem_singleton.mp member
    exact offered.1
  · cases List.mem_singleton.mp member
    exact offered.2 _

/-- What holds of each option that is offered, and of all flags, holds of what happens while marks
are taken. -/
theorem forall_events_takeMarks (d : Dissector) {marks : List Mark}
    (offered : ∀ span, .option span ∈ marks → P (.stored span) ∧ ∀ reason, P (.refused span reason))
    (flags : ∀ isLast, P (.fragment isLast)) :
    ∀ event ∈ (d.takeMarks marks).2, P event := by
  induction marks generalizing d with
  | nil => nofun
  | cons mark rest ih =>
    intro event member
    rcases List.mem_append.mp member with early | late
    · cases mark with
      | fragment isLast =>
        cases List.mem_singleton.mp early
        exact flags isLast
      | option span =>
        dsimp only at early
        split at early
        · exact d.forall_events_addSpan (offered span List.mem_cons_self) event early
        · cases early
    · exact ih _ (fun span found => offered span (List.mem_cons_of_mem _ found)) event late

/-- What holds of all that happens in each step holds of all that happens while steps are taken. -/
theorem forall_events_takeAll (d : Dissector) {steps : List Step}
    (h : ∀ step ∈ steps, ∀ d : Dissector, ∀ event ∈ (d.take step).2, P event) :
    ∀ event ∈ (d.takeAll steps).2, P event := by
  induction steps generalizing d with
  | nil => nofun
  | cons step rest ih =>
    obtain ⟨here, others⟩ := List.forall_mem_cons.mp h
    intro event member
    rcases List.mem_append.mp member with early | late
    · exact here d event early
    · exact ih _ others event late

end Runs

/-! ## Records that are widened -/

/-- What happens when a span is offered in the place of a record. -/
theorem events_updateSpan (d : Dissector) (index : Nat) (span : Span) :
    (d.updateSpan index span).2 = [.widened index span] ∨
      ∃ reason, (d.updateSpan index span).2 = [.refused span reason] := by
  unfold updateSpan
  split
  · exact .inl rfl
  · next reason _ => exact .inr ⟨reason, rfl⟩

/-- Exchanging a record leaves the scalars alone. -/
theorem scalars_updateSpan (d : Dissector) (index : Nat) (span : Span) :
    (d.updateSpan index span).1.scalars = d.scalars := by
  unfold updateSpan
  split
  · next widened exchanged =>
    obtain ⟨-, -, word, -, rfl⟩ := of_widen exchanged
    rfl
  · rfl

/-! ## Chains and steps -/

/-- A header with its chain leaves events of a chain. -/
theorem ofChain_takeChained (d : Dissector) (base : Span) (marks : List Mark) (length : Nat) :
    ∀ event ∈ (d.takeChained base marks length).2, event.OfChain := by
  have marked (d : Dissector) : ∀ event ∈ (d.takeMarks marks).2, event.OfChain :=
    d.forall_events_takeMarks (fun _ _ => ⟨trivial, fun _ => trivial⟩) fun _ => trivial
  unfold takeChained
  split
  · exact List.forall_mem_cons.mpr ⟨trivial, marked d⟩
  · next recorded _ =>
    intro event member
    rcases List.mem_append.mp member with early | late
    · rcases List.mem_cons.mp early with rfl | chained
      · trivial
      · exact marked recorded event chained
    · split at late
      · cases late
      · rcases events_updateSpan _ _ _ with widened | ⟨reason, refused⟩
        · rw [widened] at late
          cases List.mem_singleton.mp late
          trivial
        · rw [refused] at late
          cases List.mem_singleton.mp late
          trivial

/-- A step leaves events of a step. -/
theorem ofStep_take (d : Dissector) (step : Step) : ∀ event ∈ (d.take step).2, event.OfStep := by
  cases step with
  | header span => exact d.forall_events_addSpan ⟨trivial, fun _ => trivial⟩
  | mark mark =>
    have alone : (d.take (.mark mark)).2 = (d.takeMarks [mark]).2 := (List.append_nil _).symm
    rw [alone]
    exact d.forall_events_takeMarks (fun _ _ => ⟨trivial, fun _ => trivial⟩) fun _ => trivial
  | chained base marks length =>
    exact fun event member => (d.ofChain_takeChained base marks length event member).ofStep
  | framing => nofun
  | payload | remark => exact fun event only => List.mem_singleton.mp only ▸ trivial

/-- Steps leave events of steps. -/
theorem ofStep_takeAll (d : Dissector) (steps : List Step) :
    ∀ event ∈ (d.takeAll steps).2, event.OfStep :=
  d.forall_events_takeAll fun step _ d => d.ofStep_take step

end Dissector

end FrameSpans
