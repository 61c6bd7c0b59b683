import FrameSpans.Proofs.Dissector.Carried
import FrameSpans.Proofs.Dissector.Walk

/-!
# Tables only grow

A dissection appends to the table. The only records that it exchanges are those of IPv6 headers that
it appended itself, so what the table held before stays in front of it, as it was
(`Dissector.growing_descend`). In particular a table that is full does not change any more
(`Dissector.spans_eq_of_isFull`).

This holds for all octets and all handlers, as a walk carries it through (`Dissector.carried_prefix`).

Two dissections are compared by a relation between their dissectors that every part of the walk
keeps. What such relations have in common is `Abreast`: equally many levels are left, and the same
handlers are asked. What each step keeps, a run of steps does (`Dissector.related_takeAll`).
-/

namespace FrameSpans

/-- A span exchanged behind others. -/
theorem Span.set_length_append (front rest : List Span) (base span : Span) :
    (front ++ base :: rest).set front.length span = front ++ span :: rest := by
  rw [List.set_append_right _ _ (Nat.le_refl _), Nat.sub_self, List.set_cons_zero]

/-! ## The walk -/

/-- Descending leaves the spans before it as they are. -/
def Descent.Growing (deeper : Descent) : Prop :=
  deeper.Carries fun d d' => d.spans <+: d'.spans

namespace Dissector

/-- Every walk leaves the spans before it as they are: the record that is widened is that of a header
which was recorded on the way. -/
theorem carried_prefix : Carried fun d d' => d.spans <+: d'.spans where
  toGranted := granted_prefix
  fragment d _ := List.prefix_refl d.spans
  framing d type := ⟨[], by rw [List.append_nil, Evolves.spans_setFraming]⟩
  widen {d marked widened base length} _ front exchanged := by
    obtain ⟨rest, appended⟩ := front
    have behind : d.spans.length ≤ d.recordCount := Nat.le_of_eq d.length_spans
    rw [spans_of_widen exchanged, ← appended, List.set_append_right _ _ behind]
    exact List.prefix_append _ _
  nested inner := inner

/-- Entering encapsulated packets leaves the spans before it as they are, however many levels are
left. -/
theorem growing_descend (levels : Nat) : Descent.Growing (descend levels) :=
  carried_prefix.descend levels

/-! ## Full tables -/

/-- A table with room for so many spans is full when it holds as many. -/
theorem isFull_iff {d : Dissector} {capacity : Nat} (room : d.capacity = some capacity) :
    d.isFull = true ↔ capacity ≤ d.recordCount := by
  unfold isFull
  rw [room]
  exact decide_eq_true_iff

/-- A full table that grows and keeps to its room stays as it is. -/
theorem spans_eq_of_isFull {d d' : Dissector} {capacity : Nat} (room : d.capacity = some capacity)
    (full : d.isFull = true) (grown : d.spans <+: d'.spans) (bound : d'.recordCount ≤ capacity) :
    d'.spans = d.spans := by
  have least := (isFull_iff room).mp full
  have lengths : d'.spans.length ≤ d.spans.length := by
    rw [length_spans, length_spans]
    exact Nat.le_trans bound least
  exact (grown.eq_of_length_le lengths).symm

end Dissector

/-! ## Two dissections -/

/-- Two dissectors on the same level of the same packet: as far as the walk goes by it, they are in
the same state. -/
structure Abreast (d u : Dissector) : Prop where
  /-- Encapsulation is followed as far. -/
  maxDepth_eq : u.config.maxDepth = d.config.maxDepth
  /-- Both are equally far in. -/
  depth_eq : u.depth = d.depth
  /-- The handlers are the same. -/
  registry_eq : u.registry = d.registry

namespace Abreast

variable {d d' u u' : Dissector}

/-- Whatever happens on either side, they stay on the same level. -/
theorem evolve (h : Abreast d u) {events more : List Event} (left : Evolves d events d')
    (right : Evolves u more u') : Abreast d' u' where
  maxDepth_eq := by rw [right.keeps.config_eq, left.keeps.config_eq, h.maxDepth_eq]
  depth_eq := by rw [right.keeps.depth_eq, left.keeps.depth_eq, h.depth_eq]
  registry_eq := by rw [right.keeps.registry_eq, left.keeps.registry_eq, h.registry_eq]

/-- Equally many levels are left. -/
theorem levelsLeft_eq (h : Abreast d u) : u.levelsLeft = d.levelsLeft := by
  rw [Dissector.levelsLeft, h.maxDepth_eq, h.depth_eq, Dissector.levelsLeft]

/-- Both enter an encapsulated packet. -/
theorem enter (h : Abreast d u) :
    Abreast { d with depth := d.depth + 1 } { u with depth := u.depth + 1 } :=
  { h with depth_eq := congrArg (· + 1) h.depth_eq }

/-- Both leave an encapsulated packet. -/
theorem leave (h : Abreast d u) :
    Abreast { d with depth := d.depth - 1 } { u with depth := u.depth - 1 } :=
  { h with depth_eq := congrArg (· - 1) h.depth_eq }

end Abreast

/-- Two results of which both are values, or neither is. -/
theorem both_of_isOk_eq {α β ε δ : Type} {here : Except ε α} {there : Except δ β}
    (same : there.isOk = here.isOk) :
    (∃ value value', here = .ok value ∧ there = .ok value') ∨
      ∃ error error', here = .error error ∧ there = .error error' := by
  cases here with
  | ok value =>
    cases there with
    | ok value' => exact .inl ⟨value, value', rfl, rfl⟩
    | error error' => cases same
  | error error =>
    cases there with
    | ok value' => cases same
    | error error' => exact .inr ⟨error, error', rfl, rfl⟩

section Related

variable {R : Dissector → Dissector → Prop} {d u : Dissector}

/-- A relation that is kept by each mark of a chain is kept by the chain. -/
theorem Dissector.related_takeMarks {P : Mark → Prop}
    (each : ∀ {d u mark}, P mark → R d u → R (d.takeMark mark).1 (u.takeMark mark).1)
    {marks : List Mark} (all : ∀ mark ∈ marks, P mark) (h : R d u) :
    R (d.takeMarks marks).1 (u.takeMarks marks).1 := by
  induction marks generalizing d u with
  | nil => exact h
  | cons mark rest ih =>
    obtain ⟨first, others⟩ := List.forall_mem_cons.mp all
    exact ih others (each first h)

/-- A relation that is kept by each step of a reading is kept by all of them. -/
theorem Dissector.related_takeAll {P : Step → Prop}
    (each : ∀ {d u step}, P step → R d u → R (d.take step).1 (u.take step).1)
    {steps : List Step} (all : ∀ step ∈ steps, P step) (h : R d u) :
    R (d.takeAll steps).1 (u.takeAll steps).1 := by
  induction steps generalizing d u with
  | nil => exact h
  | cons step rest ih =>
    obtain ⟨first, others⟩ := List.forall_mem_cons.mp all
    exact ih others (each first h)

end Related

end FrameSpans
