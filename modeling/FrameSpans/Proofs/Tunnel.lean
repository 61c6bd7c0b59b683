import FrameSpans.Proofs.Dissector.Safety

/-!
# What tunnel handlers answer

Whatever a tunnel handler is asked, it offers at most one span, that of a header of its own at the
position it is asked about. Behind a header of VXLAN or Geneve, which is no shorter than one of ESP,
it dissects the encapsulated packet, if the span was accepted (`Tunnel.Answer`). From this follows
what the walk needs to know of it: it offers no options (`Handler.RecordsHeaders`), and an answer to
an offered span matters to it only where a packet follows (`Handler.Heeds`).
-/

namespace FrameSpans

namespace Tunnel

/-- The header of an encapsulation whose packet is dissected. -/
def Leads (id : ProtocolId) : Prop :=
  id = vxlanId ∨ id = geneveId

instance (id : ProtocolId) : Decidable (Leads id) :=
  inferInstanceAs (Decidable (_ ∨ _))

/-- What a handler may answer that looks for tunnel headers with the given id. -/
inductive Answer (call : Consultation) (id : ProtocolId) : Program → Prop
  /-- There is no header of the handler. -/
  | done : Answer call id .done
  /-- A position behind the header is no offset. -/
  | fault : Answer call id .fault
  /-- There is a header, and what follows is not for anyone to read. -/
  | header (encrypts : id = espId) :
    Answer call id (.addSpan ⟨id, call.offset, EspHeader.size⟩ fun _ => .done)
  /-- There is a header, as long as that of ESP or longer, and behind it an encapsulated packet. -/
  | packet (leads : Leads id) {length : Nat} (least : EspHeader.size ≤ length)
    (inner : Encapsulation) :
    Answer call id (.addSpan ⟨id, call.offset, length⟩ fun accepted =>
      if accepted then
        .ofRead (advance call.offset length) fun behind => .dissect inner call.data behind .done
      else .done)

section Answer

variable {call : Consultation} {id : ProtocolId}

/-- An answer that goes on with what was read. -/
theorem Answer.ofRead {α : Type} {result : Except Stop α} {next : α → Program}
    (rest : ∀ value, Answer call id (next value)) :
    Answer call id (Program.ofRead result next) := by
  cases result with
  | ok value => exact rest value
  | error stop =>
    cases stop with
    | truncated => exact .done
    | fault => exact .fault

/-- An answer that depends on a condition. -/
theorem Answer.ite {c : Prop} [Decidable c] {yes no : Program} (first : Answer call id yes)
    (second : Answer call id no) : Answer call id (if c then yes else no) := by
  split
  · exact first
  · exact second

/-- A header that leads into a packet is of the class of headers. -/
theorem Leads.kind_eq (h : Leads id) : id.kind = .protocol := by
  rcases h with rfl | rfl <;> rfl

end Answer

/-- What the handler of VXLAN answers. -/
theorem answer_vxlan (port : UInt16) (call : Consultation) :
    Answer call vxlanId (vxlan port call) := by
  unfold vxlan
  split
  · exact .done
  · exact .ite .done <| .ofRead fun header =>
      .ite .done (.packet (.inl rfl) (Nat.le_refl _) .frame)

/-- What the handler of Geneve answers. -/
theorem answer_geneve (port : UInt16) (call : Consultation) :
    Answer call geneveId (geneve port call) := by
  unfold geneve
  split
  · exact .done
  · exact .ite .done <| .ofRead fun header =>
      .ite .done (.packet (.inr rfl) (Nat.le_add_right _ _) (.payload _))

/-- What the handler of ESP answers. -/
theorem answer_esp (call : Consultation) : Answer call espId (esp call) := by
  have recorded : Answer call espId (recordEsp call.data call.offset) :=
    .ofRead fun header => .ite .done (.header rfl)
  unfold esp
  split
  · exact .ite recorded .done
  · exact .ite recorded .done

/-- Tunnel handlers answer nothing else. -/
theorem IsHandler.answer {handler : Handler} (h : IsHandler handler) (call : Consultation) :
    ∃ id, Answer call id (handler call) := by
  cases h with
  | vxlan port => exact ⟨_, answer_vxlan port call⟩
  | geneve port => exact ⟨_, answer_geneve port call⟩
  | esp => exact ⟨_, answer_esp call⟩

end Tunnel

/-! ## Handlers that record headers -/

/-- A program that offers headers only, and no options. -/
def Program.RecordsHeaders : Program → Prop
  | .done | .fault => True
  | .note _ next => next.RecordsHeaders
  | .captureLength next => ∀ length, (next length).RecordsHeaders
  | .addSpan span next => span.id.kind = .protocol ∧ ∀ accepted, (next accepted).RecordsHeaders
  | .dissect _ _ _ next => next.RecordsHeaders

/-- A handler that offers headers only, whatever it is asked. -/
def Handler.RecordsHeaders (handler : Handler) : Prop :=
  ∀ call : Consultation, (handler call).RecordsHeaders

/-- A program that goes by the answer to an offered span only if the span leads into an encapsulated
packet. -/
def Program.Heeds : Program → Prop
  | .done | .fault => True
  | .note _ next => next.Heeds
  | .captureLength next => ∀ length, (next length).Heeds
  | .addSpan span next =>
    (Tunnel.Leads span.id ∨ next true = next false) ∧ ∀ accepted, (next accepted).Heeds
  | .dissect _ _ _ next => next.Heeds

/-- A handler whose answers are such programs. -/
def Handler.Heeds (handler : Handler) : Prop :=
  ∀ call : Consultation, (handler call).Heeds

/-- What a tunnel handler answers goes by the answer to its span only where a packet follows. -/
theorem Tunnel.Answer.heeds {call : Consultation} {id : ProtocolId} {program : Program}
    (h : Answer call id program) : program.Heeds := by
  cases h with
  | done | fault => trivial
  | header => exact ⟨.inr rfl, fun _ => trivial⟩
  | @packet leads length least inner =>
    refine ⟨.inl leads, fun accepted => ?_⟩
    cases accepted with
    | false => trivial
    | true => cases advance call.offset length with
      | ok behind => trivial
      | error stop => cases stop <;> trivial

/-- Tunnel handlers go by the answer to a span only if it leads into an encapsulated packet. -/
theorem Tunnel.IsHandler.heeds {handler : Handler} (h : IsHandler handler) : handler.Heeds := by
  intro call
  obtain ⟨id, answer⟩ := h.answer call
  exact answer.heeds

end FrameSpans
