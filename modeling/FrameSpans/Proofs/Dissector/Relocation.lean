import FrameSpans.Proofs.Dissector.Growth

/-!
# What recording does not look at

Which spans are recorded, and which flags are set, has nothing to do with the handlers, and nothing
with the depth but for one thing: only a capture sets the framing. So a dissector with other handlers
to ask, at another depth, takes the steps of a reading as it would where it was
(`Dissector.takeAll_relocate`), unless one of the two depths is that of a capture and the other one
is not.
-/

namespace FrameSpans.Dissector

/-- The dissector with other handlers to ask, at another depth. -/
def relocate (d : Dissector) (registry : Option Registry) (depth : Nat) : Dissector :=
  { d with registry, depth }

variable (d : Dissector) (registry : Option Registry) (depth : Nat)

/-- Whether a span is accepted, and what that does, is the same elsewhere. -/
theorem offer_relocate (span : Span) :
    (d.relocate registry depth).offer span = (d.offer span).map (·.relocate registry depth) := by
  have full : (d.relocate registry depth).isFull = d.isFull := rfl
  have word : (d.relocate registry depth).wordFor span = d.wordFor span := rfl
  unfold offer
  rw [full, word]
  split
  · rfl
  · split
    · rfl
    · dsimp only
      split <;> rfl

/-- Offering a span does the same elsewhere. -/
theorem addSpan_relocate (span : Span) :
    ((d.relocate registry depth).addSpan span).1 = (d.addSpan span).1.relocate registry depth := by
  unfold addSpan
  rw [offer_relocate]
  cases d.offer span <;> rfl

/-- Whether a record is exchanged, and for which, is the same elsewhere. -/
theorem widen_relocate (index : Nat) (span : Span) :
    (d.relocate registry depth).widen index span =
      (d.widen index span).map (·.relocate registry depth) := by
  have count : (d.relocate registry depth).recordCount = d.recordCount := rfl
  have word : (d.relocate registry depth).wordFor span = d.wordFor span := rfl
  unfold widen
  rw [count, word]
  split
  · rfl
  · split <;> rfl

/-- Offering a span in the place of a record does the same elsewhere. -/
theorem updateSpan_relocate (index : Nat) (span : Span) :
    ((d.relocate registry depth).updateSpan index span).1 =
      (d.updateSpan index span).1.relocate registry depth := by
  unfold updateSpan
  rw [widen_relocate]
  cases d.widen index span <;> rfl

/-- A mark does the same elsewhere. -/
theorem takeMark_relocate (mark : Mark) :
    ((d.relocate registry depth).takeMark mark).1 =
      (d.takeMark mark).1.relocate registry depth := by
  cases mark with
  | fragment isLast => rfl
  | option span =>
    have policy : (d.relocate registry depth).config = d.config := rfl
    unfold takeMark
    dsimp only
    rw [policy]
    split
    · exact d.addSpan_relocate registry depth span
    · rfl

/-- Marks do the same elsewhere. -/
theorem takeMarks_relocate (marks : List Mark) :
    ((d.relocate registry depth).takeMarks marks).1 =
      (d.takeMarks marks).1.relocate registry depth :=
  related_takeMarks (R := fun d u => u = d.relocate registry depth) (P := fun _ => True)
    (fun _ same => by rw [same, takeMark_relocate]) (fun _ _ => trivial) rfl

/-- A header with its chain does the same elsewhere. -/
theorem takeChained_relocate (base : Span) (marks : List Mark) (length : Nat) :
    ((d.relocate registry depth).takeChained base marks length).1 =
      (d.takeChained base marks length).1.relocate registry depth := by
  have index : (d.relocate registry depth).recordCount = d.recordCount := rfl
  unfold takeChained
  rw [offer_relocate, index]
  cases d.offer base with
  | error reason => exact d.takeMarks_relocate registry depth marks
  | ok recorded =>
    have marked := recorded.takeMarks_relocate registry depth marks
    dsimp only [Except.map]
    by_cases none : length = 0
    · rw [if_pos none, if_pos none]
      exact marked
    · rw [if_neg none, if_neg none, marked]
      exact updateSpan_relocate _ registry depth _ _

variable {d depth} (level : depth = 0 ↔ d.depth = 0)

include level

/-- A step does the same elsewhere. -/
theorem take_relocate (step : Step) :
    ((d.relocate registry depth).take step).1 = (d.take step).1.relocate registry depth := by
  cases step with
  | header span => exact d.addSpan_relocate registry depth span
  | mark mark => exact d.takeMark_relocate registry depth mark
  | chained base marks length => exact d.takeChained_relocate registry depth base marks length
  | framing type =>
    have outermost : (d.relocate registry depth).depth = 0 ↔ d.depth = 0 := level
    show (d.relocate registry depth).setFraming type = (d.setFraming type).relocate registry depth
    unfold setFraming
    by_cases here : d.depth = 0
    · rw [if_pos here, if_pos (outermost.mpr here)]
      rfl
    · rw [if_neg here, if_neg (mt outermost.mp here)]
  | payload | remark => rfl

/-- Steps do the same elsewhere. -/
theorem takeAll_relocate {size : Nat} {steps : List Step} (sound : ∀ step ∈ steps, step.Sound size) :
    ((d.relocate registry depth).takeAll steps).1 =
      (d.takeAll steps).1.relocate registry depth := by
  -- A step keeps the depth, so the two stay on the same side of the outermost level.
  have kept := related_takeAll (P := fun step => step.Sound size)
    (R := fun d u => u = d.relocate registry depth ∧ (depth = 0 ↔ d.depth = 0))
    (fun {d u step} sound same => by
      rw [same.1, (d.evolves_take sound).keeps.depth_eq]
      exact ⟨take_relocate registry same.2 step, same.2⟩)
    sound ⟨rfl, level⟩
  exact kept.1

end FrameSpans.Dissector
