import FrameSpans.Proofs.Dissector.Displacement
import FrameSpans.Proofs.Tunnel

/-!
# Encapsulated packets stand anywhere

An encapsulated packet is dissected as if it started the capture: put octets in front of it, and the
same spans are found so much further behind, while all else that is told of the packet stays the same
(`Dissector.dissectInner_append`). A position that was taken against the wrong origin would be seen
here, and nowhere else as long as packets start at zero.

Levels are read alike behind other octets (`Reading.read_moved`), and steps keep two tables alike
(`Dissector.Displaced.takeAll`). What is left are handlers. Those of tunnels make the same requests
in moved octets, each about a moved position (`Program.Moved`, `Tunnel.IsHandler.moves`), and they
are granted alike (`Dissector.Displaced.run`).
-/

namespace FrameSpans

/-! ## Handlers -/

/-- The program of a handler, and the same one about the moved octets: both make the same requests,
the second one for positions further behind. Neither asks for the number of captured octets, which
are not the same. -/
inductive Program.Moved (distance : Nat) (data moved : Octets) : Program → Program → Prop
  /-- Both are done. -/
  | done : Moved distance data moved .done .done
  /-- Both fail. -/
  | fault : Moved distance data moved .fault .fault
  /-- Both leave a note. -/
  | note {text : String} {next next' : Program} (rest : Moved distance data moved next next') :
    Moved distance data moved (.note text next) (.note text next')
  /-- Both offer a span, the second one further behind. -/
  | addSpan {span : Span} {next next' : Bool → Program}
    (rest : ∀ accepted, Moved distance data moved (next accepted) (next' accepted)) :
    Moved distance data moved (.addSpan span next) (.addSpan (span.moveBy distance) next')
  /-- Both have an encapsulated packet dissected, the second one further behind. -/
  | dissect {inner : Encapsulation} {offset : Nat} {next next' : Program}
    (rest : Moved distance data moved next next') :
    Moved distance data moved (.dissect inner data offset next)
      (.dissect inner moved (offset + distance) next')

namespace Program.Moved

variable {distance : Nat} {data moved : Octets}

/-- Programs that go on with the same fields of a header. -/
theorem ofRead {α : Type} {result : Except Stop α} {next next' : α → Program}
    (rest : ∀ value, result = .ok value → Moved distance data moved (next value) (next' value)) :
    Moved distance data moved (Program.ofRead result next) (Program.ofRead result next') := by
  cases result with
  | ok value => exact rest value rfl
  | error stop =>
    cases stop with
    | truncated => exact .done
    | fault => exact .fault

/-- Programs that have the packet behind a header dissected, if the span of the header was
accepted. -/
theorem packet (h : Octets.Moved distance 0 data moved) (id : ProtocolId) (inner : Encapsulation)
    {offset length : Nat} (near : offset + length ≤ data.size + overhang) :
    Moved distance data moved
      (.addSpan ⟨id, offset, length⟩ fun accepted =>
        if accepted then
          .ofRead (advance offset length) fun behind => .dissect inner data behind .done
        else .done)
      (.addSpan ⟨id, offset + distance, length⟩ fun accepted =>
        if accepted then
          .ofRead (advance (offset + distance) length) fun behind =>
            .dissect inner moved behind .done
        else .done) := by
  refine .addSpan fun accepted => ?_
  rw [h.advance_eq near]
  cases accepted with
  | false => exact .done
  | true =>
    -- A position behind the header is moved with it, and a fault stays one.
    cases advance offset length with
    | ok behind => exact .dissect .done
    | error stop =>
      cases stop with
      | truncated => exact .done
      | fault => exact .fault

/-- Programs that depend on the same condition. -/
theorem ite {c : Prop} [Decidable c] {yes no yes' no' : Program}
    (first : Moved distance data moved yes yes') (second : Moved distance data moved no no') :
    Moved distance data moved (if c then yes else no) (if c then yes' else no') := by
  split
  · exact first
  · exact second

end Program.Moved

/-- A handler that makes the same requests in moved octets, for moved positions. -/
def Handler.Moves (handler : Handler) : Prop :=
  ∀ (distance : Nat) (data moved : Octets) (offset : Nat) (id : ProtocolId) (inquiry : Inquiry),
    Octets.Moved distance 0 data moved →
    Program.Moved distance data moved (handler ⟨data, offset, id, inquiry⟩)
      (handler ⟨moved, offset + distance, id, inquiry⟩)

/-- Tunnel handlers go by what they read behind the position they are asked about, and not by the
position itself. -/
theorem Tunnel.IsHandler.moves {handler : Handler} (h : IsHandler handler) : handler.Moves := by
  intro distance data moved offset id inquiry displaced
  have recorded : Program.Moved distance data moved (recordEsp data offset)
      (recordEsp moved (offset + distance)) := by
    unfold recordEsp
    rw [EspHeader.read_moved displaced (Nat.zero_le offset)]
    exact .ofRead fun header _ => .ite .done (.addSpan fun _ => .done)
  cases h with
  | vxlan port =>
    cases inquiry with
    | nextHeader value => exact .done
    | ports source destination =>
      unfold Tunnel.vxlan
      dsimp only
      rw [VxlanHeader.read_moved displaced (Nat.zero_le offset)]
      refine .ite .done (.ofRead fun header read => .ite .done ?_)
      have inside := (VxlanHeader.guarded_read data offset).value read
      exact .packet displaced vxlanId .frame (Nat.le_add_right_of_le inside)
  | geneve port =>
    cases inquiry with
    | nextHeader value => exact .done
    | ports source destination =>
      unfold Tunnel.geneve
      dsimp only
      rw [GeneveHeader.read_moved displaced (Nat.zero_le offset)]
      refine .ite .done (.ofRead fun header read => .ite .done ?_)
      -- The options may not have been captured, but their end is near the capture.
      have inside : offset + 8 ≤ data.size := (GeneveHeader.guarded_read data offset).value read
      have bound := header.headerLength_le
      exact .packet displaced geneveId (.payload (.ofValue header.protocolType)) (by omega)
  | esp =>
    cases inquiry with
    | nextHeader value => exact .ite recorded .done
    | ports source destination => exact .ite recorded .done

/-! ## The walk -/

/-- Descending into the moved octets keeps the tables alike. -/
def Descent.Translating (distance : Nat) (registry : Option Registry) (front front' : List Span)
    (data moved : Octets) (deeper : Descent) : Prop :=
  ∀ (entry : Entry) (offset : Nat) (d d' : Dissector),
    Dissector.Displaced distance data.size registry front front' d d' →
      Dissector.Displaced distance data.size registry front front'
        (deeper entry data offset d).dissector
        (deeper entry moved (offset + distance) d').dissector

namespace Dissector

namespace Displaced

section Walk

variable {distance : Nat} {registry : Option Registry} {front front' : List Span}
  {data moved : Octets} (octets : Octets.Moved distance 0 data moved) {deeper : Descent}
  (translating : deeper.Translating distance registry front front' data moved) {d d' : Dissector}

include octets translating

/-- Dissecting an encapsulated packet on behalf of a handler keeps the tables alike. -/
theorem reenter (h : Displaced distance data.size registry front front' d d')
    (inner : Encapsulation) (offset : Nat) :
    Displaced distance data.size registry front front' (d.reenter deeper inner data offset).1
      (d'.reenter deeper inner moved (offset + distance)).1 := by
  -- On both sides the handler sees all octets of the capture.
  have whole : data.upTo d.captureLength = data := by
    rw [h.captureLength_eq.1, Octets.upTo_size]
  have whole' : moved.upTo d'.captureLength = moved := by
    rw [h.captureLength_eq.2, ← octets.size_eq, Octets.upTo_size]
  rw [reenter_eq_closed, reenter_eq_closed, Outcome.dissector_closed, Outcome.dissector_closed,
    whole, whole']
  exact translating inner.entry offset d d' h

/-- Granting the requests of programs keeps the tables alike. -/
theorem run {program program' : Program} (same : Program.Moved distance data moved program program')
    (h : Displaced distance data.size registry front front' d d') :
    Displaced distance data.size registry front front' (program.run deeper d).1
      (program'.run deeper d').1 := by
  -- Induction on the requests that the programs make.
  induction same generalizing d d' with
  | done | fault => exact h
  | note rest ih => exact ih h
  | @addSpan span next next' rest ih =>
    unfold Program.run
    obtain ⟨r, r', offered, offered', still⟩ | ⟨reason, reason', refused, refused'⟩ :=
      h.offer span
    · rw [offered, offered']
      exact ih true still
    · rw [refused, refused']
      exact ih false h
  | @dissect inner offset next next' rest ih =>
    exact ih (h.reenter octets translating inner offset)

/-- Asking handlers about a moved position keeps the tables alike. -/
theorem askAll (offset : Nat) (id : ProtocolId) (inquiry : Inquiry)
    {handlers : List (Nat × Handler)} (moves : ∀ entry ∈ handlers, Handler.Moves entry.2)
    (h : Displaced distance data.size registry front front' d d') :
    Displaced distance data.size registry front front'
      (Dissector.askAll deeper ⟨data, offset, id, inquiry⟩ handlers d).1
      (Dissector.askAll deeper ⟨moved, offset + distance, id, inquiry⟩ handlers d').1 := by
  induction handlers generalizing d d' with
  | nil => exact h
  | cons entry rest ih =>
    obtain ⟨here, others⟩ := List.forall_mem_cons.mp moves
    have same := here distance data moved offset id inquiry octets
    exact ih others (run octets translating same h)

variable (moves : ∀ found, registry = some found → ∀ entry ∈ found.entries, Handler.Moves entry.2)

include moves

/-- Asking the handlers of a registry keeps the tables alike. -/
theorem consult (offset : Nat) (id : ProtocolId) (inquiry : Inquiry)
    (h : Displaced distance data.size registry front front' d d') :
    Displaced distance data.size registry front front'
      (Dissector.consult deeper ⟨data, offset, id, inquiry⟩ d).1
      (Dissector.consult deeper ⟨moved, offset + distance, id, inquiry⟩ d').1 := by
  unfold Dissector.consult
  rw [h.registry_eq.1, h.registry_eq.2]
  cases registry with
  | none => cases inquiry <;> exact h
  | some found =>
    refine askAll octets translating offset id inquiry ?_ h
    intro entry member
    exact moves found rfl (id, entry.2) (Registry.mem_of_mem_handlers member)

/-- Following a reading and the moved one keeps the tables alike. -/
theorem follow (reading : Reading)
    (h : Displaced distance data.size registry front front' d d') :
    Displaced distance data.size registry front front'
      (Dissector.follow deeper data reading d).dissector
      (Dissector.follow deeper moved (reading.moveBy distance) d').dissector := by
  have taken := h.takeAll reading.steps
  unfold Dissector.follow Reading.moveBy
  dsimp only
  cases reading.ending with
  | complete | stopped => exact taken
  | encapsulated entry offset => exact translating entry offset _ _ taken
  | consult id offset inquiry => exact taken.consult octets translating moves offset id inquiry

end Walk

end Displaced

/-- Entering encapsulated packets keeps the tables alike, however many levels are left. -/
theorem translating_descend {distance : Nat} {registry : Option Registry}
    {data moved : Octets} (octets : Octets.Moved distance 0 data moved)
    (moves : ∀ found, registry = some found → ∀ entry ∈ found.entries, Handler.Moves entry.2)
    (front front' : List Span) (levels : Nat) :
    Descent.Translating distance registry front front' data moved (descend levels) := by
  -- Induction on the levels that are left, as for `evolves_descend`.
  induction levels with
  | zero => exact fun _ _ _ _ same => same
  | succ levels ih =>
    intro entry offset d d' same
    have inner := same.enter.follow octets ih moves (Reading.read entry data offset)
    rw [← Reading.read_moved octets entry (Nat.zero_le offset)] at inner
    exact inner.leave

/-! ## Octets in front of a packet -/

/-- An encapsulated packet is dissected behind other octets as it is at the start of a capture. The
spans that are appended are the same but for the octets in front, and so is all that is set of the
packet. -/
theorem dissectInner_append {d : Dissector}
    (handlers : ∀ registry, d.registry = some registry →
      ∀ entry ∈ registry.entries, Tunnel.IsHandler entry.2)
    {front frame : Octets} (short : front.size + frame.size ≤ Span.maxLength)
    (held : d.captureLength = front.size + frame.size) (inner : Encapsulation) :
    let behind := (d.dissectInner inner (front ++ frame) front.size).1
    let alone := (dissectInner { d with captureLength := frame.size } inner frame 0).1
    (∃ found, alone.spans = d.spans ++ found ∧
      behind.spans = d.spans ++ found.map (·.moveBy front.size)) ∧
      behind.scalars = alone.scalars ∧ behind.recordCount = alone.recordCount ∧
      behind.depth = alone.depth := by
  intro behind alone
  have octets : Octets.Moved front.size 0 frame (front ++ frame) :=
    Octets.moved_append (roomy_of_le_maxLength short)
  have begun : Displaced front.size frame.size d.registry d.spans d.spans
      { d with captureLength := frame.size } d :=
    { config_eq := rfl
      registry_eq := ⟨rfl, rfl⟩
      depth_eq := rfl
      capacity_eq := rfl
      captureLength_eq := ⟨rfl, by rw [held, Nat.add_comm]⟩
      captureLength_le := by
        rw [Nat.add_comm]
        exact short
      scalars_eq := rfl
      length_eq := rfl
      spans_eq := ⟨[], (List.append_nil _).symm, (List.append_nil _).symm⟩ }
  have moves : ∀ found, d.registry = some found → ∀ entry ∈ found.entries,
      Handler.Moves entry.2 := fun found registered entry member =>
    (handlers found registered entry member).moves
  have same : Displaced front.size frame.size d.registry d.spans d.spans alone behind := by
    have entered := begun.reenter octets
      (translating_descend octets moves d.spans d.spans d.levelsLeft) inner 0
    rw [Nat.zero_add] at entered
    exact entered
  exact ⟨same.spans_eq, same.scalars_eq, same.recordCount_eq.1, same.depth_eq⟩

/-- A frame with a VXLAN packet behind three octets, in a table that holds a record already. The
tunnel handlers find the frame inside, and all positions are three octets further on. -/
theorem dissectInner_append_vxlan :
    let front : Octets := #[1, 2, 3]
    let octets : List UInt8 := List.replicate 12 2 ++ [8, 0] ++
      [0x45, 0, 0, 50, 0, 0, 0, 0, 64, 17, 0, 0, 10, 0, 0, 1, 10, 0, 0, 2] ++
      [0x12, 0xb5, 0x12, 0xb5, 0, 30, 0, 0] ++ [8, 0, 0, 0, 0, 0, 1, 0] ++
      List.replicate 12 3 ++ [0x88, 0xb5]
    let frame : Octets := octets.toArray
    let registry : Registry := ⟨Tunnel.handlers, by decide⟩
    let d : Dissector :=
      { registry := some registry, captureLength := 67, records := [0x02006000], depth := 1 }
    let behind := (d.dissectInner .frame (front ++ frame) front.size).1
    let alone := (dissectInner { d with captureLength := frame.size } .frame frame 0).1
    front.size + frame.size ≤ Span.maxLength ∧ d.captureLength = front.size + frame.size ∧
      (∃ found, alone.spans = d.spans ++ found ∧
        behind.spans = d.spans ++ found.map (·.moveBy front.size)) ∧
      behind.scalars = alone.scalars ∧ behind.recordCount = alone.recordCount ∧
      behind.depth = alone.depth ∧
      d.spans = [⟨.llc, 0, 3⟩] ∧
      behind.spans = [⟨.llc, 0, 3⟩, ⟨.ethernet, 3, 14⟩, ⟨.ipv4, 17, 20⟩, ⟨.udp, 37, 8⟩,
        ⟨Tunnel.vxlanId, 45, 8⟩, ⟨.ethernet, 53, 14⟩] := by
  intro front octets frame registry d behind alone
  have tunnels : ∀ found, d.registry = some found → ∀ entry ∈ found.entries,
      Tunnel.IsHandler entry.2 := by
    rintro found ⟨⟩ entry member
    exact Tunnel.isHandler_of_mem_handlers member
  have short : front.size + frame.size ≤ Span.maxLength := by decide
  have held : d.captureLength = front.size + frame.size := by decide
  obtain ⟨spans, scalars, count, depth⟩ := dissectInner_append tunnels short held .frame
  have known : d.spans = [⟨.llc, 0, 3⟩] := by decide
  have found : behind.spans = [⟨.llc, 0, 3⟩, ⟨.ethernet, 3, 14⟩, ⟨.ipv4, 17, 20⟩, ⟨.udp, 37, 8⟩,
      ⟨Tunnel.vxlanId, 45, 8⟩, ⟨.ethernet, 53, 14⟩] := by
    decide +kernel
  exact ⟨short, held, spans, scalars, count, depth, known, found⟩

end Dissector

end FrameSpans
