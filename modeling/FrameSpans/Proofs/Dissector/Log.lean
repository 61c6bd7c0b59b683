import FrameSpans.Proofs.Dissector.Account
import FrameSpans.Proofs.Session.Safety
import Mathlib.Data.List.Forall2

/-!
# The log of a dissection

No span is lost silently (`Dissector.no_offer_lost`): a span that was offered is in the table, or
the log has one line that names it. The lines that name spans stand in the order of the refusals, and
no other line begins like them. One more line, the last one, tells that the outermost level stopped.

That each offer has its event is known from its account (`Accounts`). Here the account is carried
over to the log. Lines are told apart by their first characters: a line about a span begins with
`s`, the line about the end of a capture with `d`, and all the others with something else
(`Event.initial_of_aside`).

Handlers may ask for octets that are too far off to have an offset, and what they ask for then ends
with a fault. The level itself never does, so its line always names the end of the capture
(`Dissector.stop_dissectCapture`).
-/

namespace FrameSpans

/-! ## Lines -/

namespace LogRecord

/-- Whether the line begins like one about a span. -/
def isAboutSpan (record : LogRecord) : Bool :=
  "span ".toList.isPrefixOf record.text.toList

/-- The line about a capture of so many octets that ended before its packet did. -/
def captureStopped (length : Nat) : LogRecord :=
  ⟨.trace, "dissection of " ++ toString length ++ " octet capture stopped: buffer truncated"⟩

end LogRecord

/-- Whether the span of the offer was refused. -/
def Offer.isRefused (offer : Offer) : Bool :=
  offer.refusal.isSome

/-- The line names the span of the offer, and says why it was refused. -/
def Offer.NamedBy (offer : Offer) (record : LogRecord) : Prop :=
  ∃ reason text, offer.refusal = some reason ∧ reason.text? = some text ∧
    record = ⟨.debug, "span " ++ offer.span.describe ++ " " ++ text⟩

/-- The text begins with the character. -/
def Initial (first : Char) (text : String) : Prop :=
  text.toList.head? = some first

namespace Initial

variable {first other : Char} {text more : String}

/-- What is written behind a text does not change how it begins. -/
theorem append (h : Initial first text) : Initial first (text ++ more) := by
  unfold Initial at h ⊢
  rw [String.toList_append, List.head?_append, h]
  rfl

/-- A text begins in one way only. -/
theorem unique (h : Initial first text) (h' : Initial other text) : first = other :=
  Option.some.inj (h.symm.trans h')

end Initial

namespace LogRecord

/-- A line about a span begins with `s`. -/
theorem initial_of_isAboutSpan {record : LogRecord} (h : record.isAboutSpan = true) :
    Initial 's' record.text := by
  obtain ⟨rest, text⟩ := List.isPrefixOf_iff_prefix.mp h
  unfold Initial
  rw [← text]
  rfl

/-- A line that begins with another character is not about a span. -/
theorem isAboutSpan_of_initial {record : LogRecord} {first : Char} (h : Initial first record.text)
    (other : first ≠ 's') : record.isAboutSpan = false :=
  Bool.eq_false_iff.mpr fun about => other (h.unique (initial_of_isAboutSpan about))

/-- The line about the end of a capture begins with `d`. -/
theorem initial_captureStopped (length : Nat) : Initial 'd' (captureStopped length).text :=
  .append (.append rfl)

/-- The line about the end of a capture is not about a span. -/
theorem isAboutSpan_captureStopped (length : Nat) : (captureStopped length).isAboutSpan = false :=
  isAboutSpan_of_initial (initial_captureStopped length) (by decide)

end LogRecord

/-- A capture that ended too early leaves the line that tells so. -/
theorem Event.log_stopped_capture (length : Nat) :
    (Event.stopped (.capture length) .truncated).log? = some (.captureStopped length) := by
  have text : "dissection of " ++ toString length ++ " octet capture" ++ " stopped: " ++
      "buffer truncated" =
        "dissection of " ++ toString length ++ " octet capture stopped: buffer truncated" := by
    rw [String.append_assoc, String.append_assoc]
    rfl
  exact congrArg (fun text => some (LogRecord.mk .trace text)) text

/-- A line that names a span is about a span. -/
theorem Offer.NamedBy.isAboutSpan {offer : Offer} {record : LogRecord} (h : offer.NamedBy record) :
    record.isAboutSpan = true := by
  obtain ⟨reason, text, -, -, rfl⟩ := h
  refine List.isPrefixOf_iff_prefix.mpr ?_
  rw [String.toList_append, String.toList_append, String.toList_append, List.append_assoc,
    List.append_assoc]
  exact List.prefix_append _ _

/-- A line about neither an offer nor the end of a capture begins with another character. -/
theorem Event.initial_of_aside {event : Event} (other : event.IsAside) {record : LogRecord}
    (logged : event.log? = some record) :
    ∃ first ∈ ['n', 'I', 'T', 'e'], Initial first record.text := by
  cases event with
  | stored | widened | refused => exact other.elim
  | fragment | payload | entered | left | asked | note | handlerFault => cases logged
  | remark about =>
    cases logged
    cases about with
    | noIpVersion => exact ⟨'n', by decide, .append (.append (.append rfl))⟩
    | ipv4HeaderLength => exact ⟨'I', by decide, .append (.append (.append (.append rfl)))⟩
    | tcpHeaderLength => exact ⟨'T', by decide, .append (.append (.append (.append rfl)))⟩
    | icmpv6Type => exact ⟨'I', by decide, .append (.append (.append (.append rfl)))⟩
  | depthReached =>
    cases logged
    exact ⟨'e', by decide, .append (.append rfl)⟩
  | unhandled =>
    cases logged
    exact ⟨'n', by decide, .append (.append (.append rfl))⟩
  | stopped branch stop =>
    cases logged
    cases branch with
    | capture => exact other.elim
    | encapsulated inner offset =>
      cases inner with
      | frame => exact ⟨'e', by decide, .append (.append (.append rfl))⟩
      | payload => exact ⟨'e', by decide, .append (.append (.append (.append (.append rfl))))⟩

/-- A line about neither an offer nor the end of a capture is neither about a span nor about the end
of a capture. -/
theorem Event.unrelated_of_aside {event : Event} (other : event.IsAside) {record : LogRecord}
    (logged : event.log? = some record) :
    record.isAboutSpan = false ∧ ∀ length, record ≠ .captureStopped length := by
  obtain ⟨first, among, begins⟩ := initial_of_aside other logged
  constructor
  · refine LogRecord.isAboutSpan_of_initial begins ?_
    rintro rfl
    exact absurd among (by decide)
  · rintro length rfl
    cases begins.unique (LogRecord.initial_captureStopped length)
    exact absurd among (by decide)

/-- The event of an offer leaves a line that names the span, if it leaves one. -/
theorem Event.Tells.namedBy {event : Event} {offer : Offer} (tells : event.Tells offer)
    {record : LogRecord} (logged : event.log? = some record) : offer.NamedBy record := by
  cases tells with
  | stored | widened => cases logged
  | @refused span index reason present =>
    obtain ⟨text, said, rfl⟩ := Option.map_eq_some_iff.mp logged
    exact ⟨reason, text, rfl, said, rfl⟩

/-- The event of an offer leaves a line if and only if the span was refused. -/
theorem Event.Tells.isSome_log {event : Event} {offer : Offer} (tells : event.Tells offer) :
    event.log?.isSome = offer.isRefused := by
  cases tells with
  | stored | widened => rfl
  | @refused span index reason present =>
    cases reason with
    | vacant => exact absurd rfl present
    | full | outside | unencodable => rfl

namespace Accounts

variable {events : List Event} {offers : List Offer}

/-- The lines about spans name the refused ones, each of them once and in order. -/
theorem named (h : Accounts events offers) :
    List.Forall₂ Offer.NamedBy (offers.filter Offer.isRefused)
      ((events.filterMap Event.log?).filter LogRecord.isAboutSpan) := by
  -- Induction on the account: an offer has a line that names it or none at all, and what else
  -- happens has no line about a span.
  induction h with
  | nil => exact .nil
  | @told event _ offer _ tells _ ih =>
    have lined := tells.isSome_log
    cases logged : event.log? with
    | none =>
      rw [logged] at lined
      rw [List.filterMap_cons_none logged, List.filter_cons_of_neg (by rw [← lined]; nofun)]
      exact ih
    | some record =>
      rw [logged] at lined
      have naming := tells.namedBy logged
      rw [List.filterMap_cons_some logged, List.filter_cons_of_pos lined.symm,
        List.filter_cons_of_pos naming.isAboutSpan]
      exact .cons naming ih
  | @aside event _ _ other _ ih =>
    cases logged : event.log? with
    | none =>
      rw [List.filterMap_cons_none logged]
      exact ih
    | some record =>
      have about := (Event.unrelated_of_aside other logged).1
      rw [List.filterMap_cons_some logged, List.filter_cons_of_neg (by rw [about]; nofun)]
      exact ih

/-- No line tells of the end of a capture. -/
theorem captureStopped_not_mem (h : Accounts events offers) (length : Nat) :
    .captureStopped length ∉ events.filterMap Event.log? := by
  intro member
  obtain ⟨event, among, logged⟩ := List.mem_filterMap.mp member
  rcases h.of_mem among with ⟨offer, tells⟩ | other
  · have about := (tells.namedBy logged).isAboutSpan
    rw [LogRecord.isAboutSpan_captureStopped] at about
    cases about
  · exact (Event.unrelated_of_aside other logged).2 length rfl

end Accounts

/-! ## The end of a capture -/

/-- Where descending stops, it is excused. -/
def Descent.Excused (deeper : Descent) : Prop :=
  ∀ (entry : Entry) (data : Octets) (offset : Nat) (d : Dissector) (stop : Stop),
    (deeper entry data offset d).stop = some stop → stop.Excused data.size

namespace Dissector

/-- Where following a sound reading stops, it is excused. What a handler asks for does not count. -/
theorem excused_follow {deeper : Descent} (excused : deeper.Excused) {data : Octets}
    {reading : Reading} (sound : reading.Sound data.size) (d : Dissector) {stop : Stop}
    (stopped : (follow deeper data reading d).stop = some stop) : stop.Excused data.size := by
  have ends := sound.ending
  unfold follow at stopped
  dsimp only at stopped
  split at stopped
  · cases stopped
  · next ending =>
    cases stopped
    rw [ending] at ends
    exact ends
  · next entry offset _ => exact excused entry data offset _ stop stopped
  · cases stopped

/-- Where entering encapsulated packets stops, it is excused. -/
theorem excused_descend (levels : Nat) : Descent.Excused (descend levels) := by
  -- Induction on the levels that are left, as for `evolves_descend`.
  induction levels with
  | zero =>
    intro entry data offset d stop stopped
    cases stopped
  | succ levels ih =>
    intro entry data offset d stop stopped
    have followed : (follow (descend levels) data (Reading.read entry data offset)
        { d with depth := d.depth + 1 }).stop = some stop := stopped
    exact excused_follow ih (Reading.sound_read data entry offset) _ followed

/-- The dissection of a capture that can exist stops only at its end. -/
theorem stop_dissectCapture (d : Dissector) {data : Octets} (roomy : Roomy data.size) {stop : Stop}
    (stopped : (d.dissectCapture data).stop = some stop) : stop = .truncated := by
  have excused := excused_follow (excused_descend d.levelsLeft)
    (sound_readLink d.config.link data) d stopped
  cases stop with
  | truncated => rfl
  | fault => exact absurd rfl (excused.ne_fault roomy)

end Dissector

/-- The log of a capture has one line more if the dissection stopped. -/
theorem Outcome.log_closed {outcome : Outcome} (length : Nat)
    (h : ∀ {stop}, outcome.stop = some stop → stop = .truncated) :
    (outcome.closed (.capture length)).2.filterMap Event.log? =
      outcome.events.filterMap Event.log? ++
        if outcome.stop.isSome then [.captureStopped length] else [] := by
  unfold closed
  cases stopped : outcome.stop with
  | none => exact (List.append_nil _).symm
  | some stop =>
    cases h stopped
    rw [List.filterMap_append]
    exact congrArg _ (List.filterMap_cons_some (Event.log_stopped_capture length))

/-! ## The log -/

namespace Dissector

/-- Whatever the policy, the capture and the handlers, no span is lost silently. The table is what
the offers that were accepted make of it. The lines about spans name the refused ones, each of them
once and in order. The line about the end of the capture is there if and only if the outermost level
stopped, and then it is the last one and there only once. -/
theorem no_offer_lost (d : Dissector) {buffer : Octets} {captureLength wireLength : Nat}
    (timestamp : UInt64) (fits : buffer.size ≤ maxFrame) (held : captureLength ≤ buffer.size)
    (wired : captureLength ≤ wireLength) :
    ∃ traced, d.dissect buffer captureLength wireLength timestamp = .ok traced ∧
      let begun := d.started captureLength wireLength timestamp
      let data := buffer.extract 0 captureLength
      let offers := begun.offersOfCapture data
      let log := traced.2.filterMap Event.log?
      traced.1.spans = offers.foldl Offer.replay d.spans ∧
        List.Forall₂ Offer.NamedBy (offers.filter Offer.isRefused)
          (log.filter LogRecord.isAboutSpan) ∧
        ∃ lines, .captureStopped captureLength ∉ lines ∧
          log = lines ++
            if (begun.dissectCapture data).stop.isSome then [.captureStopped captureLength]
            else [] := by
  refine ⟨_, dissect_held held wired timestamp, ?_⟩
  intro begun data offers log
  have account : Accounts (begun.dissectCapture data).events offers :=
    begun.accounts_dissectCapture data
  have size : data.size = captureLength := by
    rw [Array.size_extract]
    omega
  have roomy : Roomy data.size := roomy_of_le_maxFrame (by omega)
  have logged := Outcome.log_closed captureLength (begun.stop_dissectCapture roomy)
  refine ⟨?_, ?_, _, account.captureStopped_not_mem captureLength, logged⟩
  · rw [Outcome.dissector_closed]
    exact (begun.evolves_dissectCapture data).spans_eq_replay.trans (account.replay_eq d.spans)
  · -- The line about the end of the capture is not about a span.
    have silent (stopped : Bool) : (if stopped then [LogRecord.captureStopped captureLength]
        else []).filter LogRecord.isAboutSpan = [] := by
      cases stopped with
      | false => rfl
      | true =>
        exact List.filter_eq_nil_iff.mpr fun record member => by
          rw [List.mem_singleton.mp member, LogRecord.isAboutSpan_captureStopped]
          nofun
    show List.Forall₂ _ _ (List.filter _ (List.filterMap _ _))
    rw [logged, List.filter_append, silent, List.append_nil]
    exact account.named

/-- A capture that ends inside the second extension header of IPv6. Neither that header nor the IPv6
header with its chain can be recorded. -/
theorem no_offer_lost_of_cut_chain :
    let buffer : Octets :=
      #[0x60, 0, 0, 0, 0, 10, 0, 64, 0xfe, 0x80, 0, 0, 0, 0, 0, 0, 0, 0, 0, 0, 0, 0, 0, 1,
        0xfe, 0x80, 0, 0, 0, 0, 0, 0, 0, 0, 0, 0, 0, 0, 0, 2, 60, 0, 1, 4, 0, 0, 0, 0, 6, 0]
    let d : Dissector := { config := { link := .rawIp } }
    buffer.size ≤ maxFrame ∧ 50 ≤ buffer.size ∧ 50 ≤ 56 ∧
      ∃ traced, d.dissect buffer 50 56 0 = .ok traced ∧
        let offers := (d.started 50 56 0).offersOfCapture (buffer.extract 0 50)
        traced.1.spans = offers.foldl Offer.replay [] ∧
          List.Forall₂ Offer.NamedBy (offers.filter Offer.isRefused)
            ((traced.2.filterMap Event.log?).filter LogRecord.isAboutSpan) ∧
          traced.1.spans.map Span.describe = ["IPv6@0+40", "IPv6-EXT-0@40+8"] ∧
          logLines traced.2 =
            ["DEBUG span IPv6-EXT-3@48+8 exceeds the capture of 50 octets",
              "DEBUG span IPv6@0+56 exceeds the capture of 50 octets",
              "TRACE dissection of 50 octet capture stopped: buffer truncated"] := by
  intro buffer d
  have fits : buffer.size ≤ maxFrame := by decide
  have held : 50 ≤ buffer.size := by decide
  obtain ⟨traced, dissected, table, named, -⟩ :=
    no_offer_lost d 0 fits held (by decide : 50 ≤ 56)
  have told : (d.dissect buffer 50 56 0).toOption.map
      (fun traced => (traced.1.spans.map Span.describe, logLines traced.2)) =
        some (["IPv6@0+40", "IPv6-EXT-0@40+8"],
          ["DEBUG span IPv6-EXT-3@48+8 exceeds the capture of 50 octets",
            "DEBUG span IPv6@0+56 exceeds the capture of 50 octets",
            "TRACE dissection of 50 octet capture stopped: buffer truncated"]) := by
    decide +kernel
  rw [dissected] at told
  obtain ⟨spans, lines⟩ := Prod.mk.inj (Option.some.inj told)
  exact ⟨fits, held, by decide, traced, dissected, table, named, spans, lines⟩

end Dissector

end FrameSpans
