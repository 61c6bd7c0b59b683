import FrameSpans.Proofs.Dissector.Growth
import FrameSpans.Proofs.Dissector.Steps
import FrameSpans.Proofs.Tunnel

/-!
# Flags do not depend on the table

Besides its spans a walk sets the framing of a packet and its two fragment flags (`Flags`). They are
set by steps, and no step asks whether an earlier span found room: the flags that a level leaves can
be told from its reading alone (`Dissector.flags_takeAll`). A policy decides what is recorded and
nothing else, so two policies give the same flags for all levels that both of them enter.

There is one way in which they may enter different levels. The handlers of VXLAN and Geneve dissect
the packet behind their header only if the span of the header was accepted, and it is refused if the
table is full. Options fill the table, so a policy that leaves them out may enter a packet that
another one does not see (`fragment_hidden_by_full_table`). `flags_of_policies` tells that this is
the only way, and that even then the framing is the same.
-/

namespace FrameSpans

/-! ## Flags -/

/-- What a walk sets of a packet besides its spans. -/
structure Flags where
  /-- The framing at the link layer. -/
  l2Type : L2Type
  /-- The packet is a fragment. -/
  isFragment : Bool
  /-- The packet is the last fragment of its datagram. -/
  isLastFragment : Bool
  deriving DecidableEq, Repr

namespace Flags

/-- The flags behind a mark. -/
def mark (flags : Flags) : Mark → Flags
  | .option _ => flags
  | .fragment isLast => { flags with isFragment := true, isLastFragment := isLast }

/-- The flags behind a step that is taken at the given depth. -/
def step (depth : Nat) (flags : Flags) : Step → Flags
  | .mark found => flags.mark found
  | .chained _ marks _ => marks.foldl mark flags
  | .framing type => if depth = 0 then { flags with l2Type := type } else flags
  | .header _ | .payload .. | .remark _ => flags

/-- Marks leave the framing alone. -/
theorem l2Type_marks (flags : Flags) (marks : List Mark) :
    (marks.foldl mark flags).l2Type = flags.l2Type := by
  induction marks generalizing flags with
  | nil => rfl
  | cons found rest ih =>
    rw [List.foldl_cons, ih]
    cases found <;> rfl

/-- Steps inside encapsulated packets leave the framing alone. -/
theorem l2Type_steps {depth : Nat} (inside : depth ≠ 0) (flags : Flags) (steps : List Step) :
    (steps.foldl (step depth) flags).l2Type = flags.l2Type := by
  induction steps generalizing flags with
  | nil => rfl
  | cons taken rest ih =>
    rw [List.foldl_cons, ih]
    cases taken with
    | mark found => exact l2Type_marks flags [found]
    | chained base marks length => exact l2Type_marks flags marks
    | framing type => rw [step, if_neg inside]
    | header | payload | remark => rfl

end Flags

namespace Dissector

/-- The flags that were set of the packet. -/
def flags (d : Dissector) : Flags :=
  ⟨d.scalars.l2Type, d.scalars.isFragment, d.scalars.isLastFragment⟩

/-- Recording a span sets no flags. -/
theorem flags_of_offer {d d' : Dissector} {span : Span} (h : d.offer span = .ok d') :
    d'.flags = d.flags := by
  obtain ⟨-, -, word, -, rfl⟩ := of_offer h
  rfl

/-- Offering a span sets no flags. -/
theorem flags_addSpan (d : Dissector) (span : Span) : (d.addSpan span).1.flags = d.flags := by
  unfold addSpan
  split
  · next recorded offered => exact flags_of_offer offered
  · rfl

/-- A mark sets the flags that it tells, whether or not it is recorded. -/
theorem flags_takeMark (d : Dissector) (mark : Mark) :
    (d.takeMark mark).1.flags = d.flags.mark mark := by
  cases mark with
  | fragment isLast => rfl
  | option span =>
    unfold takeMark
    dsimp only
    split
    · exact d.flags_addSpan span
    · rfl

/-- Marks set the flags that they tell. -/
theorem flags_takeMarks (d : Dissector) (marks : List Mark) :
    (d.takeMarks marks).1.flags = marks.foldl Flags.mark d.flags := by
  induction marks generalizing d with
  | nil => rfl
  | cons mark rest ih =>
    rw [List.foldl_cons, ← flags_takeMark]
    exact ih (d.takeMark mark).1

/-- A header with its chain sets the flags that the marks of the chain tell. -/
theorem flags_takeChained (d : Dissector) (base : Span) (marks : List Mark) (length : Nat) :
    (d.takeChained base marks length).1.flags = marks.foldl Flags.mark d.flags := by
  unfold takeChained
  split
  · exact d.flags_takeMarks marks
  · next recorded offered =>
    have marked := recorded.flags_takeMarks marks
    rw [flags_of_offer offered] at marked
    dsimp only
    split
    · exact marked
    · rw [flags, scalars_updateSpan]
      exact marked

/-- A step sets the flags that it tells. -/
theorem flags_take (d : Dissector) (step : Step) :
    (d.take step).1.flags = d.flags.step d.depth step := by
  cases step with
  | header span => exact d.flags_addSpan span
  | mark mark => exact d.flags_takeMark mark
  | chained base marks length => exact d.flags_takeChained base marks length
  | framing type =>
    show (d.setFraming type).flags = if d.depth = 0 then _ else _
    unfold setFraming
    split <;> rfl
  | payload | remark => rfl

/-- Steps set the flags that they tell, whatever the policy and however full the table. -/
theorem flags_takeAll (d : Dissector) {size : Nat} {steps : List Step}
    (sound : ∀ step ∈ steps, step.Sound size) :
    (d.takeAll steps).1.flags = steps.foldl (Flags.step d.depth) d.flags := by
  induction steps generalizing d with
  | nil => rfl
  | cons step rest ih =>
    obtain ⟨first, others⟩ := List.forall_mem_cons.mp sound
    rw [List.foldl_cons, ← flags_take, ← (d.evolves_take first).keeps.depth_eq]
    exact ih (d.take step).1 others

end Dissector

/-! ## The framing -/

/-- Descending leaves the framing alone. -/
def Descent.KeepsFraming (deeper : Descent) : Prop :=
  deeper.Carries fun d d' => d'.scalars.l2Type = d.scalars.l2Type

namespace Dissector

/-- What handlers ask for leaves the framing alone. -/
theorem granted_framing : Granted fun d d' => d'.scalars.l2Type = d.scalars.l2Type where
  refl _ := rfl
  trans first second := second.trans first
  offer offered := congrArg Flags.l2Type (flags_of_offer offered)

/-- Following a reading leaves the framing that its steps tell. -/
theorem l2Type_follow {deeper : Descent} (keeps : deeper.KeepsFraming) (data : Octets) {size : Nat}
    {reading : Reading} (sound : reading.Sound size) (d : Dissector) :
    (follow deeper data reading d).dissector.scalars.l2Type =
      (reading.steps.foldl (Flags.step d.depth) d.flags).l2Type := by
  rw [← d.flags_takeAll sound.steps]
  unfold follow
  dsimp only
  split
  · rfl
  · rfl
  · next entry offset _ => exact keeps entry data offset _
  · exact granted_framing.consult keeps _ _

/-- Encapsulated packets leave the framing alone, however many levels are left. -/
theorem keepsFraming_descend (levels : Nat) :
    Descent.KeepsFraming (descend levels) := by
  -- Induction on the levels that are left. Inside a packet the depth is not zero.
  induction levels with
  | zero => exact fun _ _ _ _ => rfl
  | succ levels ih =>
    intro entry data offset d
    have followed := l2Type_follow ih data (Reading.sound_read data entry offset)
      { d with depth := d.depth + 1 }
    exact followed.trans (Flags.l2Type_steps (Nat.succ_ne_zero d.depth) d.flags _)

end Dissector

/-! ## Two tables -/

/-- A header that leads into an encapsulated packet was refused because the table is full. -/
def Event.Hides : Event → Prop
  | .refused span .full => Tunnel.Leads span.id
  | _ => False

instance : DecidablePred Event.Hides := fun event =>
  match event with
  | .refused span .full => inferInstanceAs (Decidable (Tunnel.Leads span.id))
  | .refused _ (.outside _) | .refused _ .unencodable | .refused _ .vacant | .stored _
  | .widened .. | .fragment _ | .payload .. | .remark _ | .entered _ | .left | .depthReached _
  | .unhandled .. | .asked .. | .note _ | .handlerFault | .stopped .. =>
    .isFalse nofun

/-- No packet was hidden by a full table. -/
def Unhidden (events : List Event) : Prop :=
  ∀ event ∈ events, ¬event.Hides

instance (events : List Event) : Decidable (Unhidden events) :=
  inferInstanceAs (Decidable (∀ event ∈ events, ¬event.Hides))

namespace Unhidden

variable {events more : List Event}

/-- Nothing is hidden in the first part of a trace. -/
theorem left (h : Unhidden (events ++ more)) : Unhidden events :=
  (List.forall_mem_append.mp h).1

/-- Nothing is hidden in the last part of a trace. -/
theorem right (h : Unhidden (events ++ more)) : Unhidden more :=
  (List.forall_mem_append.mp h).2

/-- Nothing is hidden behind the first event of a trace. -/
theorem tail {event : Event} (h : Unhidden (event :: events)) : Unhidden events :=
  (List.forall_mem_cons.mp h).2

end Unhidden

/-- Two dissectors of one packet whose policies and tables may differ. The flags are the same so
far. -/
structure Alike (d u : Dissector) : Prop extends Abreast d u where
  /-- The capture is the same. -/
  captureLength_eq : u.captureLength = d.captureLength
  /-- The handlers go by the answer only if a span leads into an encapsulated packet. -/
  handlers : ∀ registry, d.registry = some registry → ∀ entry ∈ registry.entries,
    Handler.Heeds entry.2
  /-- The flags are the same. -/
  flags_eq : u.flags = d.flags

namespace Alike

variable {d d' u u' : Dissector} {events more : List Event}

/-- Evolutions leave everything else as it was, so it is enough to compare the flags. -/
theorem evolve (h : Alike d u) (left : Evolves d events d') (right : Evolves u more u')
    (flags : u'.flags = d'.flags) : Alike d' u' where
  toAbreast := h.toAbreast.evolve left right
  captureLength_eq := by
    rw [right.keeps.captureLength_eq, left.keeps.captureLength_eq, h.captureLength_eq]
  handlers registry found := h.handlers registry (left.keeps.registry_eq.symm.trans found)
  flags_eq := flags

/-- Taking the steps of a reading. -/
theorem takeAll (h : Alike d u) {size : Nat} {steps : List Step}
    (sound : ∀ step ∈ steps, step.Sound size) :
    Alike (d.takeAll steps).1 (u.takeAll steps).1 := by
  refine h.evolve (d.evolves_takeAll sound) (u.evolves_takeAll sound) ?_
  rw [d.flags_takeAll sound, u.flags_takeAll sound, h.depth_eq, h.flags_eq]

/-- Recording a span on the left. -/
theorem store_left (h : Alike d u) {span : Span} (offered : d.offer span = .ok d') : Alike d' u :=
  h.evolve (.store offered) (.nothing u) (h.flags_eq.trans (Dissector.flags_of_offer offered).symm)

/-- Recording a span on the right. -/
theorem store_right (h : Alike d u) {span : Span} (offered : u.offer span = .ok u') : Alike d u' :=
  h.evolve (.nothing d) (.store offered) ((Dissector.flags_of_offer offered).trans h.flags_eq)

/-- A span that one side accepts and the other one refuses is refused because the table is full. -/
theorem eq_full_of_offer {d u recorded : Dissector} {span : Span} {reason : Refusal}
    (same : u.captureLength = d.captureLength) (offered : d.offer span = .ok recorded)
    (refused : u.offer span = .error reason) : reason = .full := by
  obtain ⟨-, admits, -⟩ := Dissector.of_offer offered
  cases full : u.isFull with
  | true =>
    rw [Dissector.offer_of_isFull full] at refused
    exact (Except.error.inj refused).symm
  | false =>
    have admitted : u.Admits span := by
      rw [Dissector.Admits, same]
      exact admits
    obtain ⟨recorded, accepted⟩ := Dissector.offer_of_admits full admitted
    rw [refused] at accepted
    cases accepted

end Alike

/-- Descending where so many levels are left leaves the same flags on both sides, if neither table
hides a packet. -/
def Descent.Blind (levels : Nat) (deeper : Descent) : Prop :=
  ∀ (entry : Entry) (data : Octets) (offset : Nat) (d u : Dissector), d.levelsLeft = levels →
    Alike d u → Unhidden (deeper entry data offset d).events →
    Unhidden (deeper entry data offset u).events →
    Alike (deeper entry data offset d).dissector (deeper entry data offset u).dissector

/-- What happened is told whether or not reading stopped. -/
theorem Outcome.unhidden_of_closed {outcome : Outcome} {branch : Branch}
    (h : Unhidden (outcome.closed branch).2) : Unhidden outcome.events :=
  fun event member => h event (outcome.events_subset_closed branch member)

namespace Alike

section Walk

variable {levels : Nat} {deeper : Descent} (evolving : deeper.Evolving levels)
  (blind : deeper.Blind levels) {d u : Dissector}

include blind

/-- Dissecting an encapsulated packet on behalf of a handler. -/
theorem reenter (h : Alike d u) (left : d.levelsLeft = levels) (inner : Encapsulation)
    (data : Octets) (offset : Nat) (shown : Unhidden (d.reenter deeper inner data offset).2)
    (shown' : Unhidden (u.reenter deeper inner data offset).2) :
    Alike (d.reenter deeper inner data offset).1 (u.reenter deeper inner data offset).1 := by
  rw [Dissector.reenter_eq_closed] at shown shown' ⊢
  rw [Dissector.reenter_eq_closed, Outcome.dissector_closed, Outcome.dissector_closed]
  rw [h.captureLength_eq] at shown' ⊢
  exact blind inner.entry _ offset d u left h (Outcome.unhidden_of_closed shown)
    (Outcome.unhidden_of_closed shown')

include evolving

/-- Granting the requests of a program that goes by the answer only if a span leads into an
encapsulated packet. -/
theorem run (program : Program) (heeds : program.Heeds) (h : Alike d u)
    (left : d.levelsLeft = levels) (shown : Unhidden (program.run deeper d).2)
    (shown' : Unhidden (program.run deeper u).2) :
    Alike (program.run deeper d).1 (program.run deeper u).1 := by
  induction program generalizing d u with
  | done | fault => exact h
  | note text next ih => exact ih heeds h left shown.tail shown'.tail
  | captureLength next ih =>
    unfold Program.run at shown shown' ⊢
    rw [h.captureLength_eq] at shown' ⊢
    exact ih d.captureLength (heeds _) h left shown shown'
  | addSpan span next ih =>
    obtain ⟨leads, rest⟩ := heeds
    unfold Program.run at shown shown' ⊢
    cases here : d.offer span with
    | ok recorded =>
      have stored := (Evolves.store here).levelsLeft_eq.trans left
      rw [here] at shown
      cases there : u.offer span with
      | ok recorded' =>
        rw [there] at shown'
        exact ih true (rest true) ((h.store_left here).store_right there) stored shown.tail
          shown'.tail
      | error reason =>
        rw [there] at shown'
        obtain rfl := eq_full_of_offer h.captureLength_eq here there
        -- Otherwise the packet would be hidden on the right.
        have same := leads.resolve_left (shown' _ List.mem_cons_self)
        rw [← same] at shown' ⊢
        exact ih true (rest true) (h.store_left here) stored shown.tail shown'.tail
    | error reason =>
      rw [here] at shown
      cases there : u.offer span with
      | ok recorded' =>
        rw [there] at shown'
        obtain rfl := eq_full_of_offer h.captureLength_eq.symm there here
        -- Otherwise the packet would be hidden on the left.
        have same := leads.resolve_left (shown _ List.mem_cons_self)
        rw [same] at shown' ⊢
        exact ih false (rest false) (h.store_right there) left shown.tail shown'.tail
      | error reason' =>
        rw [there] at shown'
        exact ih false (rest false) h left shown.tail shown'.tail
  | dissect inner data offset next ih =>
    have first := Dissector.evolves_reenter evolving left inner data offset
    exact ih heeds (h.reenter blind left inner data offset shown.left shown'.left)
      (first.levelsLeft_eq.trans left) shown.right shown'.right

/-- Asking handlers. -/
theorem askAll (call : Consultation) {handlers : List (Nat × Handler)}
    (heeds : ∀ entry ∈ handlers, Handler.Heeds entry.2) (h : Alike d u)
    (left : d.levelsLeft = levels)
    (shown : Unhidden (Dissector.askAll deeper call handlers d).2)
    (shown' : Unhidden (Dissector.askAll deeper call handlers u).2) :
    Alike (Dissector.askAll deeper call handlers d).1
      (Dissector.askAll deeper call handlers u).1 := by
  induction handlers generalizing d u with
  | nil => exact h
  | cons entry rest ih =>
    obtain ⟨slot, handler⟩ := entry
    obtain ⟨here, others⟩ := List.forall_mem_cons.mp heeds
    have first := (handler call).evolves_run evolving left
    exact ih others (run evolving blind _ (here call) h left shown.tail.left shown'.tail.left)
      (first.levelsLeft_eq.trans left) shown.tail.right shown'.tail.right

/-- Asking the handlers of a registry. -/
theorem consult (call : Consultation) (h : Alike d u) (left : d.levelsLeft = levels)
    (shown : Unhidden (Dissector.consult deeper call d).2)
    (shown' : Unhidden (Dissector.consult deeper call u).2) :
    Alike (Dissector.consult deeper call d).1 (Dissector.consult deeper call u).1 := by
  unfold Dissector.consult at shown shown' ⊢
  rw [h.registry_eq] at shown' ⊢
  cases found : d.registry with
  | none => cases call.inquiry <;> exact h
  | some registry =>
    rw [found] at shown shown'
    refine askAll evolving blind call ?_ h left shown shown'
    intro entry member
    exact h.handlers registry found (call.id, entry.2) (Registry.mem_of_mem_handlers member)

/-- Following a reading. -/
theorem follow (data : Octets) {size : Nat} {reading : Reading} (sound : reading.Sound size)
    (h : Alike d u) (left : d.levelsLeft = levels)
    (shown : Unhidden (Dissector.follow deeper data reading d).events)
    (shown' : Unhidden (Dissector.follow deeper data reading u).events) :
    Alike (Dissector.follow deeper data reading d).dissector
      (Dissector.follow deeper data reading u).dissector := by
  have taken := h.takeAll sound.steps
  have still := (d.evolves_takeAll sound.steps).levelsLeft_eq.trans left
  unfold Dissector.follow at shown shown' ⊢
  cases ending : reading.ending with
  | complete | stopped => exact taken
  | encapsulated entry offset =>
    rw [ending] at shown shown'
    exact blind entry data offset _ _ still taken shown.right shown'.right
  | consult id offset inquiry =>
    rw [ending] at shown shown'
    exact consult evolving blind _ taken still shown.right shown'.right

end Walk

/-- Entering encapsulated packets, however many levels are left. -/
theorem blind_descend (levels : Nat) : Descent.Blind levels (Dissector.descend levels) := by
  -- Induction on the levels that are left, as for `Dissector.evolves_descend`.
  induction levels with
  | zero => exact fun entry data offset d u left h _ _ => h
  | succ levels ih =>
    intro entry data offset d u left h shown shown'
    have entered : Alike { d with depth := d.depth + 1 } { u with depth := u.depth + 1 } :=
      { h with toAbreast := h.toAbreast.enter }
    have followed := entered.follow (Dissector.evolves_descend levels) ih data
      (Reading.sound_read data entry offset) (Dissector.levelsLeft_enter left) shown.left.tail
      shown'.left.tail
    exact { followed with toAbreast := followed.toAbreast.leave }

/-- Dissecting a capture. -/
theorem dissectCapture {d u : Dissector} (h : Alike d u) (link : u.config.link = d.config.link)
    (data : Octets) (shown : Unhidden (d.dissectCapture data).events)
    (shown' : Unhidden (u.dissectCapture data).events) :
    Alike (d.dissectCapture data).dissector (u.dissectCapture data).dissector := by
  unfold Dissector.dissectCapture at shown shown' ⊢
  rw [h.levelsLeft_eq, link] at shown' ⊢
  exact h.follow (Dissector.evolves_descend _) (blind_descend _) data
    (Dissector.sound_readLink d.config.link data) rfl shown shown'

end Alike

/-! ## Captures -/

namespace Dissector

/-- The framing of a capture is told by the steps of its outermost level. -/
theorem l2Type_dissectCapture (d : Dissector) (data : Octets) :
    (d.dissectCapture data).dissector.scalars.l2Type =
      ((readLink d.config.link data).steps.foldl (Flags.step d.depth) d.flags).l2Type :=
  l2Type_follow (keepsFraming_descend _) data (sound_readLink d.config.link data) d

variable {d d' : Dissector} {buffer : Octets} {captureLength wireLength : Nat}

/-- Two dissections of a capture with the same handlers, whatever the policies record and however
much room the tables have, find the same framing. They find the same fragment flags as well, unless
a full table hid an encapsulated packet from one of them. -/
theorem flags_of_policies (registry : d'.registry = d.registry)
    (handlers : ∀ registry, d.registry = some registry →
      ∀ entry ∈ registry.entries, Tunnel.IsHandler entry.2)
    (link : d'.config.link = d.config.link) (maxDepth : d'.config.maxDepth = d.config.maxDepth)
    (held : captureLength ≤ buffer.size) (wired : captureLength ≤ wireLength) (timestamp : UInt64) :
    ∃ first second,
      d.reset.dissect buffer captureLength wireLength timestamp = .ok first ∧
      d'.reset.dissect buffer captureLength wireLength timestamp = .ok second ∧
      second.1.scalars.l2Type = first.1.scalars.l2Type ∧
      (Unhidden first.2 → Unhidden second.2 →
        second.1.scalars.isFragment = first.1.scalars.isFragment ∧
        second.1.scalars.isLastFragment = first.1.scalars.isLastFragment) := by
  have begun : Alike (d.reset.started captureLength wireLength timestamp)
      (d'.reset.started captureLength wireLength timestamp) :=
    { maxDepth_eq := maxDepth
      depth_eq := rfl
      registry_eq := registry
      captureLength_eq := rfl
      handlers := fun registry found entry member => (handlers registry found entry member).heeds
      flags_eq := rfl }
  refine ⟨_, _, dissect_held held wired timestamp, dissect_held held wired timestamp, ?_, ?_⟩
  · rw [Outcome.dissector_closed, Outcome.dissector_closed, l2Type_dissectCapture,
      l2Type_dissectCapture]
    show ((readLink d'.config.link _).steps.foldl (Flags.step 0) _).l2Type = _
    rw [link]
    rfl
  · intro shown shown'
    have ended := begun.dissectCapture link _ (Outcome.unhidden_of_closed shown)
      (Outcome.unhidden_of_closed shown')
    rw [Outcome.dissector_closed, Outcome.dissector_closed]
    exact ⟨congrArg Flags.isFragment ended.flags_eq, congrArg Flags.isLastFragment ended.flags_eq⟩

/-- A fragment inside a VXLAN packet whose IPv4 header has four options. -/
theorem flags_of_policies_vxlan :
    let frame : Octets :=
      #[0x46, 0, 0, 0x4a, 0, 0, 0, 0, 64, 17, 0, 0, 10, 0, 0, 1, 10, 0, 0, 2, 1, 1, 1, 1,
        0x12, 0xb5, 0x12, 0xb5, 0, 50, 0, 0, 8, 0, 0, 0, 0, 0, 1, 0,
        2, 0, 0, 0, 0, 1, 2, 0, 0, 0, 0, 2, 0x08, 0x00,
        0x45, 0, 0, 20, 0, 0, 0x20, 0, 64, 1, 0, 0, 10, 0, 0, 3, 10, 0, 0, 4]
    let registry : Registry := ⟨Tunnel.handlers, by decide⟩
    let d : Dissector := { config := { link := .rawIp }, registry := some registry }
    let d' : Dissector := { d with config := d.config.withoutOptions }
    d'.registry = d.registry ∧ d'.config.link = d.config.link ∧
      d'.config.maxDepth = d.config.maxDepth ∧ 74 ≤ frame.size ∧ 74 ≤ 74 ∧
      ∃ first second, d.reset.dissect frame 74 74 0 = .ok first ∧
        d'.reset.dissect frame 74 74 0 = .ok second ∧
        second.1.scalars.l2Type = first.1.scalars.l2Type ∧
        Unhidden first.2 ∧ Unhidden second.2 ∧
        second.1.scalars.isFragment = first.1.scalars.isFragment ∧
        second.1.scalars.isLastFragment = first.1.scalars.isLastFragment ∧
        first.1.scalars.isFragment = true ∧
        first.1.spans.length = 9 ∧ second.1.spans.length = 5 := by
  intro frame registry d d'
  have tunnels : ∀ found, d.registry = some found → ∀ entry ∈ found.entries,
      Tunnel.IsHandler entry.2 := by
    rintro found ⟨⟩ entry member
    exact Tunnel.isHandler_of_mem_handlers member
  have same : d'.registry = d.registry := rfl
  have held : 74 ≤ frame.size := by decide
  obtain ⟨first, second, dissected, dissected', framing, fragments⟩ :=
    flags_of_policies same tunnels rfl rfl held (by decide : 74 ≤ 74) 0
  have told : (d.reset.dissect frame 74 74 0).toOption.map
      (fun traced => decide (Unhidden traced.2 ∧ traced.1.scalars.isFragment = true ∧
        traced.1.spans.length = 9)) = some true := by
    decide +kernel
  have told' : (d'.reset.dissect frame 74 74 0).toOption.map
      (fun traced => decide (Unhidden traced.2 ∧ traced.1.spans.length = 5)) = some true := by
    decide +kernel
  rw [dissected] at told
  rw [dissected'] at told'
  obtain ⟨shown, fragment, length⟩ := of_decide_eq_true (Option.some.inj told)
  obtain ⟨shown', length'⟩ := of_decide_eq_true (Option.some.inj told')
  obtain ⟨isFragment, isLast⟩ := fragments shown shown'
  exact ⟨rfl, rfl, rfl, held, by decide, first, second, dissected, dissected', framing, shown,
    shown', isFragment, isLast, fragment, length, length'⟩

/-- The same packet behind an IPv4 header whose options fill the table. The policy that leaves out
options sees the fragment, and the one that records them does not. -/
theorem fragment_hidden_by_full_table :
    let header : List UInt8 :=
      [0x4f, 0, 0, 0x6e, 0, 0, 0, 0, 64, 17, 0, 0, 10, 0, 0, 1, 10, 0, 0, 2]
    let payload : List UInt8 :=
      [0x12, 0xb5, 0x12, 0xb5, 0, 50, 0, 0, 8, 0, 0, 0, 0, 0, 1, 0,
        2, 0, 0, 0, 0, 1, 2, 0, 0, 0, 0, 2, 0x08, 0x00,
        0x45, 0, 0, 20, 0, 0, 0x20, 0, 64, 1, 0, 0, 10, 0, 0, 3, 10, 0, 0, 4]
    let frame : Octets := (header ++ List.replicate 40 1 ++ payload).toArray
    let registry : Registry := ⟨Tunnel.handlers, by decide⟩
    let d : Dissector := { config := { link := .rawIp }, registry := some registry }
    let d' : Dissector := { d with config := d.config.withoutOptions }
    ∃ first second, d.reset.dissect frame 110 110 0 = .ok first ∧
      d'.reset.dissect frame 110 110 0 = .ok second ∧
      first.1.scalars.isFragment = false ∧ second.1.scalars.isFragment = true := by
  intro header payload frame registry d d'
  have told : (d.reset.dissect frame 110 110 0).toOption.map
      (fun traced => traced.1.scalars.isFragment) = some false := by
    decide +kernel
  have told' : (d'.reset.dissect frame 110 110 0).toOption.map
      (fun traced => traced.1.scalars.isFragment) = some true := by
    decide +kernel
  obtain ⟨first, dissected, missed⟩ := ok_of_map_toOption told
  obtain ⟨second, dissected', seen⟩ := ok_of_map_toOption told'
  exact ⟨first, second, dissected, dissected', missed, seen⟩

end Dissector

end FrameSpans
