import FrameSpans.Proofs.Dissector.Carried
import FrameSpans.Proofs.Dissector.Walk

/-!
# Accounts of offered spans

`Dissector.offersOfCapture` lists the spans that the dissection of a capture offers to the table, by
the core and by handlers, and why each is refused if it is. It follows the walk call by call, and
does not look at the trace.

The trace tells the same story: it has one event for each offer, in the order of the offers, and all
its other events are about something else (`Accounts`, `Dissector.accounts_dissectCapture`). So the
table holds exactly the offers that were accepted (`Accounts.replay_eq`), and no offer that was
refused is missing in the trace.

The proof follows the walk, as that of `Dissector.evolves_descend` does. The one thing that it needs
to know of the state is that a record to be widened is there, so no offer is refused for want of a
record, which would leave no line in the log.
-/

namespace FrameSpans

/-! ## Offers -/

/-- A span that is offered to a dissector, and what becomes of it. -/
structure Offer where
  /-- The span. -/
  span : Span
  /-- The index of the record that the span is to replace, if it is to replace one. -/
  index : Option Nat
  /-- Why the span is refused, if it is. -/
  refusal : Option Refusal
  deriving DecidableEq, Repr

/-- Why there is no result, if there is none. -/
def Refusal.of? {α : Type} : Except Refusal α → Option Refusal
  | .ok _ => none
  | .error reason => some reason

namespace Offer

/-- A span that is offered as one more record. -/
def added (d : Dissector) (span : Span) : Offer :=
  ⟨span, none, Refusal.of? (d.offer span)⟩

/-- A span that is offered in the place of a record. -/
def exchanged (d : Dissector) (index : Nat) (span : Span) : Offer :=
  ⟨span, some index, Refusal.of? (d.widen index span)⟩

/-- What an offer makes of a list of spans. -/
def replay (spans : List Span) (offer : Offer) : List Span :=
  match offer.refusal, offer.index with
  | none, none => spans ++ [offer.span]
  | none, some index => spans.set index offer.span
  | some _, _ => spans

end Offer

/-- The offers of packets that are dissected one level deeper. -/
abbrev Ledger := Entry → Octets → Nat → Dissector → List Offer

namespace Dissector

/-- The offers of marks. An option is offered if the policy asks for it. -/
def offersOfMarks (d : Dissector) : List Mark → List Offer
  | [] => []
  | .option span :: rest =>
    if d.config.recordsOption span.id then .added d span :: (d.addSpan span).1.offersOfMarks rest
    else d.offersOfMarks rest
  | .fragment isLast :: rest => (d.setFragment isLast).offersOfMarks rest

/-- The offers of a header with its chain. The header is offered once more, in the place of its own
record and with its chain, if it has a record and a chain. -/
def offersOfChain (d : Dissector) (base : Span) (marks : List Mark) (length : Nat) : List Offer :=
  .added d base ::
    match d.offer base with
    | .error _ => d.offersOfMarks marks
    | .ok recorded =>
      recorded.offersOfMarks marks ++
        if length = 0 then []
        else [.exchanged (recorded.takeMarks marks).1 d.recordCount
          { base with length := base.length + length }]

/-- The offers of a step. -/
def offersOfStep (d : Dissector) : Step → List Offer
  | .header span => [.added d span]
  | .mark mark => d.offersOfMarks [mark]
  | .chained base marks length => d.offersOfChain base marks length
  | .framing _ | .payload .. | .remark _ => []

/-- The offers of steps. -/
def offersOfSteps (d : Dissector) : List Step → List Offer
  | [] => []
  | step :: rest => d.offersOfStep step ++ (d.take step).1.offersOfSteps rest

end Dissector

/-- The offers of the requests of a handler. -/
def Program.offers (deeper : Descent) (inside : Ledger) : Program → Dissector → List Offer
  | .done, _ | .fault, _ => []
  | .note _ next, d => next.offers deeper inside d
  | .captureLength next, d => (next d.captureLength).offers deeper inside d
  | .addSpan span next, d =>
    .added d span :: (next (d.offer span).isOk).offers deeper inside (d.addSpan span).1
  | .dissect inner data offset next, d =>
    inside inner.entry (data.upTo d.captureLength) offset d ++
      next.offers deeper inside (d.reenter deeper inner data offset).1

namespace Dissector

/-- The offers of handlers that are asked one after the other. -/
def offersOfHandlers (deeper : Descent) (inside : Ledger) (call : Consultation) :
    List (Nat × Handler) → Dissector → List Offer
  | [], _ => []
  | (_, handler) :: rest, d =>
    (handler call).offers deeper inside d ++
      offersOfHandlers deeper inside call rest ((handler call).run deeper d).1

/-- The offers of the handlers that are registered under the id of a consultation. -/
def offersOfCall (deeper : Descent) (inside : Ledger) (call : Consultation) (d : Dissector) :
    List Offer :=
  match d.registry with
  | some registry => offersOfHandlers deeper inside call (registry.handlers call.id) d
  | none => []

/-- The offers of a reading that is followed. -/
def offersOfReading (deeper : Descent) (inside : Ledger) (data : Octets) (reading : Reading)
    (d : Dissector) : List Offer :=
  let taken := (d.takeAll reading.steps).1
  d.offersOfSteps reading.steps ++
    match reading.ending with
    | .complete | .stopped _ => []
    | .encapsulated entry offset => inside entry data offset taken
    | .consult id offset inquiry => offersOfCall deeper inside ⟨data, offset, id, inquiry⟩ taken

/-- The offers of encapsulated packets, where so many levels are left. -/
def offersBelow : Nat → Ledger
  | 0, _, _, _, _ => []
  | levels + 1, entry, data, offset, d =>
    offersOfReading (descend levels) (offersBelow levels) data (Reading.read entry data offset)
      { d with depth := d.depth + 1 }

/-- The offers of a capture. -/
def offersOfCapture (d : Dissector) (data : Octets) : List Offer :=
  offersOfReading (descend d.levelsLeft) (offersBelow d.levelsLeft) data
    (readLink d.config.link data) d

end Dissector

/-! ## Events and offers -/

/-- The event tells of the offer. No event tells of an offer that was refused for want of a
record. -/
inductive Event.Tells : Event → Offer → Prop
  /-- The span was recorded. -/
  | stored (span : Span) : Tells (.stored span) ⟨span, none, none⟩
  /-- The span replaced a record. -/
  | widened (index : Nat) (span : Span) : Tells (.widened index span) ⟨span, some index, none⟩
  /-- The span was refused. -/
  | refused (span : Span) (index : Option Nat) {reason : Refusal} (present : reason ≠ .vacant) :
    Tells (.refused span reason) ⟨span, index, some reason⟩

/-- The event tells neither of an offer nor of the end of a capture. -/
def Event.IsAside : Event → Prop
  | .stored _ | .widened .. | .refused .. | .stopped (.capture _) _ => False
  | _ => True

/-- There is one event for each offer, in the order of the offers, and other events are neither about
offers nor about the end of a capture. -/
inductive Accounts : List Event → List Offer → Prop
  /-- Nothing happened. -/
  | nil : Accounts [] []
  /-- A span was offered. -/
  | told {event : Event} {events : List Event} {offer : Offer} {offers : List Offer}
    (tells : event.Tells offer) (rest : Accounts events offers) :
    Accounts (event :: events) (offer :: offers)
  /-- Something else happened. -/
  | aside {event : Event} {events : List Event} {offers : List Offer} (other : event.IsAside)
    (rest : Accounts events offers) : Accounts (event :: events) offers

namespace Accounts

variable {events more : List Event} {offers others : List Offer}

/-- One offer is told by one event. -/
theorem one {event : Event} {offer : Offer} (tells : event.Tells offer) :
    Accounts [event] [offer] :=
  .told tells .nil

/-- What happens one behind the other is offered one behind the other. -/
theorem append (first : Accounts events offers) (second : Accounts more others) :
    Accounts (events ++ more) (offers ++ others) := by
  induction first with
  | nil => exact second
  | told tells _ ih => exact .told tells ih
  | aside other _ ih => exact .aside other ih

/-- Something else may happen behind offers. -/
theorem behind (first : Accounts events offers) {event : Event} (other : event.IsAside) :
    Accounts (events ++ [event]) offers := by
  have both := first.append (.aside other .nil)
  rwa [List.append_nil] at both

/-- An event tells of an offer, or it is about something else. -/
theorem of_mem (h : Accounts events offers) {event : Event} (member : event ∈ events) :
    (∃ offer, event.Tells offer) ∨ event.IsAside := by
  induction h with
  | nil => cases member
  | told tells _ ih =>
    rcases List.mem_cons.mp member with rfl | later
    · exact .inl ⟨_, tells⟩
    · exact ih later
  | aside other _ ih =>
    rcases List.mem_cons.mp member with rfl | later
    · exact .inr other
    · exact ih later

/-- The offers make of a list of spans what the events make of it. -/
theorem replay_eq (h : Accounts events offers) (spans : List Span) :
    events.foldl Event.replay spans = offers.foldl Offer.replay spans := by
  induction h generalizing spans with
  | nil => rfl
  | told tells _ ih => cases tells <;> exact ih _
  | @aside event _ _ other _ ih =>
    have kept : event.replay spans = spans := by
      cases event with
      | stored | widened => exact other.elim
      | _ => rfl
    rw [List.foldl_cons, kept]
    exact ih spans

end Accounts

/-! ## Steps -/

namespace Dissector

/-- The record of a span tells of its offer. -/
theorem tells_stored {d recorded : Dissector} {span : Span} (h : d.offer span = .ok recorded) :
    (Event.stored span).Tells (.added d span) := by
  rw [Offer.added, h]
  exact .stored span

/-- The refusal of a span tells of its offer. -/
theorem tells_refused {d : Dissector} {span : Span} {reason : Refusal}
    (h : d.offer span = .error reason) : (Event.refused span reason).Tells (.added d span) := by
  rw [Offer.added, h]
  exact .refused span none (ne_vacant_of_offer h)

/-- A span that is offered leaves the event that tells of it. -/
theorem accounts_addSpan (d : Dissector) (span : Span) :
    Accounts (d.addSpan span).2 [.added d span] := by
  unfold addSpan
  split
  · next recorded offered => exact .one (tells_stored offered)
  · next reason refused => exact .one (tells_refused refused)

/-- A span that is offered in the place of a record leaves the event that tells of it. -/
theorem accounts_updateSpan {d : Dissector} {index : Nat} (occupied : index < d.recordCount)
    (span : Span) : Accounts (d.updateSpan index span).2 [.exchanged d index span] := by
  unfold updateSpan Offer.exchanged
  cases widened : d.widen index span with
  | ok recorded => exact .one (.widened index span)
  | error reason => exact .one (.refused span _ (ne_vacant_of_widen occupied widened))

/-- The offers of marks are told. -/
theorem accounts_takeMarks (d : Dissector) (marks : List Mark) :
    Accounts (d.takeMarks marks).2 (d.offersOfMarks marks) := by
  induction marks generalizing d with
  | nil => exact .nil
  | cons mark rest ih =>
    cases mark with
    | fragment isLast => exact .aside trivial (ih _)
    | option span =>
      unfold takeMarks takeMark offersOfMarks
      dsimp only
      split
      · exact (d.accounts_addSpan span).append (ih _)
      · exact ih d

/-- The offers of a header with its chain are told. -/
theorem accounts_takeChained (d : Dissector) (base : Span) (marks : List Mark) (length : Nat) :
    Accounts (d.takeChained base marks length).2 (d.offersOfChain base marks length) := by
  unfold takeChained offersOfChain
  cases offered : d.offer base with
  | error reason => exact .told (tells_refused offered) (d.accounts_takeMarks marks)
  | ok recorded =>
    have marked : Accounts (.stored base :: _) _ :=
      .told (tells_stored offered) (recorded.accounts_takeMarks marks)
    -- The marks went behind the record of the header, so it is still there.
    have occupied : d.recordCount < (recorded.takeMarks marks).1.recordCount := by
      have stored : recorded.recordCount = d.recordCount + 1 :=
        (Evolves.store offered).recordCount_eq
      have more := (recorded.evolves_takeMarks marks).recordCount_eq
      omega
    dsimp only
    split
    · exact marked.append .nil
    · exact marked.append (accounts_updateSpan occupied _)

/-- The offers of a step are told. -/
theorem accounts_take (d : Dissector) (step : Step) :
    Accounts (d.take step).2 (d.offersOfStep step) := by
  cases step with
  | header span => exact d.accounts_addSpan span
  | mark mark =>
    have alone : (d.takeMarks [mark]).2 = (d.takeMark mark).2 := List.append_nil _
    exact alone ▸ d.accounts_takeMarks [mark]
  | chained base marks length => exact d.accounts_takeChained base marks length
  | framing type => exact .nil
  | payload | remark => exact .aside trivial .nil

/-- The offers of steps are told. -/
theorem accounts_takeAll (d : Dissector) (steps : List Step) :
    Accounts (d.takeAll steps).2 (d.offersOfSteps steps) := by
  induction steps generalizing d with
  | nil => exact .nil
  | cons step rest ih => exact (d.accounts_take step).append (ih _)

end Dissector

/-! ## Handlers -/

/-- The offers of packets that are dissected one level deeper are told. -/
def Descent.Accounted (deeper : Descent) (inside : Ledger) : Prop :=
  ∀ (entry : Entry) (data : Octets) (offset : Nat) (d : Dissector),
    Accounts (deeper entry data offset d).events (inside entry data offset d)

section Handlers

variable {deeper : Descent} {inside : Ledger} (accounted : deeper.Accounted inside)

include accounted

/-- The offers of an encapsulated packet that a handler asks for are told. -/
theorem Dissector.accounts_reenter (d : Dissector) (inner : Encapsulation) (data : Octets)
    (offset : Nat) :
    Accounts (d.reenter deeper inner data offset).2
      (inside inner.entry (data.upTo d.captureLength) offset d) := by
  have entered := accounted inner.entry (data.upTo d.captureLength) offset d
  unfold reenter
  dsimp only
  split
  · exact entered
  · exact entered.behind trivial

/-- The offers of the requests of a handler are told. -/
theorem Program.accounts_run (program : Program) (d : Dissector) :
    Accounts (program.run deeper d).2 (program.offers deeper inside d) := by
  induction program generalizing d with
  | done => exact .nil
  | fault => exact .aside trivial .nil
  | note text next ih => exact .aside trivial (ih d)
  | captureLength next ih => exact ih d.captureLength d
  | addSpan span next ih =>
    unfold run offers Dissector.addSpan
    cases offered : d.offer span with
    | ok recorded => exact .told (Dissector.tells_stored offered) (ih true recorded)
    | error reason => exact .told (Dissector.tells_refused offered) (ih false d)
  | dissect inner data offset next ih =>
    exact (Dissector.accounts_reenter accounted d inner data offset).append (ih _)

namespace Dissector

/-- The offers of handlers that are asked one after the other are told. -/
theorem accounts_askAll (call : Consultation) (handlers : List (Nat × Handler)) (d : Dissector) :
    Accounts (askAll deeper call handlers d).2
      (offersOfHandlers deeper inside call handlers d) := by
  induction handlers generalizing d with
  | nil => exact .nil
  | cons entry rest ih =>
    obtain ⟨slot, handler⟩ := entry
    exact .aside trivial (((handler call).accounts_run accounted d).append (ih _))

/-- The offers of the handlers of a registry are told. -/
theorem accounts_consult (call : Consultation) (d : Dissector) :
    Accounts (consult deeper call d).2 (offersOfCall deeper inside call d) := by
  unfold consult offersOfCall
  cases d.registry with
  | some registry => exact accounts_askAll accounted call _ d
  | none =>
    cases call.inquiry with
    | ports source destination => exact .nil
    | nextHeader value => exact .aside trivial .nil

/-- The offers of a reading that is followed are told. -/
theorem accounts_follow (data : Octets) (reading : Reading) (d : Dissector) :
    Accounts (follow deeper data reading d).events
      (offersOfReading deeper inside data reading d) := by
  have taken := d.accounts_takeAll reading.steps
  unfold follow offersOfReading
  cases reading.ending with
  | complete | stopped => exact (List.append_nil (d.offersOfSteps reading.steps)).symm ▸ taken
  | encapsulated entry offset => exact taken.append (accounted entry data offset _)
  | consult id offset inquiry => exact taken.append (accounts_consult accounted _ _)

end Dissector

end Handlers

/-! ## Captures -/

namespace Dissector

/-- The offers of encapsulated packets are told, however many levels are left. -/
theorem accounted_descend (levels : Nat) :
    Descent.Accounted (descend levels) (offersBelow levels) := by
  -- Induction on the levels that are left: a level is followed with one level less.
  induction levels with
  | zero => exact fun entry data offset d => .aside trivial .nil
  | succ levels ih =>
    intro entry data offset d
    have followed := accounts_follow ih data (Reading.read entry data offset)
      { d with depth := d.depth + 1 }
    have entered : Accounts (.entered (d.depth + 1) :: _) _ := .aside trivial followed
    exact entered.behind trivial

/-- The offers of a capture are told, and nothing but the end of the capture is missing in its
trace. -/
theorem accounts_dissectCapture (d : Dissector) (data : Octets) :
    Accounts (d.dissectCapture data).events (d.offersOfCapture data) :=
  accounts_follow (accounted_descend d.levelsLeft) data (readLink d.config.link data) d

end Dissector

end FrameSpans
