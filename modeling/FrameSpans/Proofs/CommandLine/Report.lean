import FrameSpans.CommandLine.Report
import FrameSpans.Proofs.Descriptor.Canonical
import FrameSpans.Proofs.Dissector.Overlap
import FrameSpans.Proofs.Session.Descriptor
import FrameSpans.Proofs.Session.Safety

/-!
# Runs

A run fails for two reasons only: a part of the frame is not hexadecimal, or the packet is said to
have been shorter on the wire than it is. All else goes through: the registry has room for the
handlers, no assertion of the dissector aborts the run, the dissection runs safely, the table fits
into the buffer for the descriptor, and what was written is accepted again. So every other run gives
a report that shows the packet (`Report.Shows`, `run_total`).
-/

namespace FrameSpans.CommandLine

/-! ## The frame -/

/-- The octets of parts, one behind the other. -/
def joined (parts : List Octets) : Octets :=
  parts.foldr (· ++ ·) #[]

/-- The frame can not be put together if a part behind readable ones is not hexadecimal. -/
theorem joinFrame_of_error {front rest : List String} {part : String} {error : Text.FrameError}
    (readable : ∀ before ∈ front, (Text.parseFrame before).isOk = true)
    (unreadable : Text.parseFrame part = .error error) :
    joinFrame (front ++ part :: rest) = .error error := by
  induction front with
  | nil => rw [List.nil_append, joinFrame, unreadable]
  | cons before front ih =>
    obtain ⟨here, others⟩ := List.forall_mem_cons.mp readable
    rw [List.cons_append, joinFrame, ih others]
    cases parsed : Text.parseFrame before with
    | error error =>
      rw [parsed] at here
      cases here
    | ok octets => rfl

/-- A frame whose parts are all hexadecimal is put together from their octets. -/
theorem joinFrame_of_mapM {texts : List String} {parts : List Octets}
    (parsed : texts.mapM Text.parseFrame = .ok parts) : joinFrame texts = .ok (joined parts) := by
  induction texts generalizing parts with
  | nil =>
    cases parsed
    rfl
  | cons text rest ih =>
    rw [List.mapM_cons] at parsed
    obtain ⟨octets, first, parsed⟩ := ok_of_bind parsed
    obtain ⟨more, others, parsed⟩ := ok_of_bind parsed
    cases parsed
    rw [joinFrame, first, ih others]
    rfl

/-! ## The report -/

/-- A report shows the packet that the settings describe, whose octets are those of the frame. -/
structure Report.Shows (report : Report) (settings : Settings) (frame : Octets) : Prop where
  /-- The frame was captured completely. -/
  captureLength_eq : report.captureLength = frame.size
  /-- The wire length is the one given, or that of the frame. -/
  wireLength_eq : report.wireLength = settings.wireLength.getD frame.size
  /-- The descriptor is accepted in the byte order asked for. It holds the spans of the report, and
  both lengths up to the greatest that its fields can hold. -/
  accepted : ∃ descriptor, Descriptor.ofOctets report.descriptor settings.endian = .ok descriptor ∧
    descriptor.octets = report.descriptor ∧ descriptor.spans = report.spans ∧
    descriptor.header.captureLength.toNat = min report.captureLength 65535 ∧
    descriptor.header.wireLength.toNat = min report.wireLength 65535
  /-- The report has a text. -/
  shown : report.text?.isSome = true
  /-- No access went wrong while a frame was dissected that can exist. -/
  safe : frame.size ≤ maxFrame → SafeTrace report.events

/-- The registry of a run has room for the handlers asked for. -/
theorem Settings.registry_eq (settings : Settings) :
    settings.registry = (if settings.noTunnels then .empty else Tunnel.registry, .ok ()) := by
  unfold Settings.registry
  split <;> rfl

/-- The handlers of a run are those of tunnels. -/
theorem Settings.isHandler_of_mem (settings : Settings) :
    ∀ entry ∈ (if settings.noTunnels then Registry.empty else Tunnel.registry).entries,
      Tunnel.IsHandler entry.2 := by
  intro entry member
  split at member
  · cases member
  · exact Tunnel.isHandler_of_mem_handlers member

/-- The dissector that a run starts with. -/
def fresh (settings : Settings) (registry : Registry) : Dissector :=
  { config := settings.config, registry := some registry }

/-- A buffer for the longest descriptor has room for that of a well-formed table, and what is written
into it is accepted and shows the table. -/
theorem exists_descriptor {d : Dissector} (wellFormed : d.WellFormed) (endian : Endian) :
    ∃ buffer descriptor,
      d.writePacked (Array.replicate Layout.maxSize 0) endian =
        (.ok (Layout.size d.recordCount), buffer) ∧
      Descriptor.ofOctets (buffer.extract 0 (Layout.size d.recordCount)) endian =
        .ok descriptor ∧
      descriptor.octets = buffer.extract 0 (Layout.size d.recordCount) ∧
      descriptor.spans = d.spans ∧ descriptor.header = d.header.reduced := by
  have room : Layout.size d.recordCount ≤ (Array.replicate Layout.maxSize (0 : UInt8)).size := by
    have few := wellFormed.recordCount_le
    have most := Layout.size_eq maxRecords
    rw [Array.size_replicate, Layout.maxSize, Layout.size_eq]
    omega
  obtain ⟨buffer, descriptor, written, found, size, spans, header⟩ :=
    Dissector.ofOctets_writePacked wellFormed.recordCount_le room endian
  -- What is accepted of the whole buffer are the octets that were written.
  have octets : descriptor.octets = buffer.extract 0 (Layout.size d.recordCount) := by
    obtain ⟨extent, -⟩ := Descriptor.of_ofOctets found
    have length := Descriptor.size_of_ofOctets found
    rw [← size, Descriptor.size, length]
    exact congrArg Descriptor.octets extent
  have accepted := Descriptor.ofOctets_octets found
  rw [octets] at accepted
  exact ⟨buffer, descriptor, written, accepted, octets, spans, header⟩

section Frame

variable (settings : Settings) (registry : Registry) {frame : Octets}

/-- Both ways to write the descriptor give the same octets, so a report may take either. -/
theorem reportOf_eq (frame : Octets) (wireLength : Nat) (dissector : Dissector)
    (events : List Event) :
    reportOf settings frame wireLength (dissector, events) =
      match dissector.writePacked (Array.replicate Layout.maxSize 0) settings.endian with
      | (.error error, _) => .error (.descriptor error)
      | (.ok size, out) =>
        .ok { captureLength := frame.size, wireLength, spans := dissector.spans,
              endian := settings.endian, descriptor := out.extract 0 size, events } := by
  have agree (out : Octets) : dissector.writeFields out settings.endian =
      dissector.writePacked out settings.endian :=
    (Descriptor.writeFields_eq ..).trans (Descriptor.writePacked_eq ..).symm
  unfold reportOf
  dsimp only
  rw [agree, ite_self]
  cases dissector.writePacked (Array.replicate Layout.maxSize 0) settings.endian with
  | mk written out => cases written <;> rfl

/-- A report does not depend on the way in which the descriptor is written. -/
theorem reportOf_packed (packed : Bool) (frame : Octets) (wireLength : Nat) (traced : Traced) :
    reportOf { settings with packed } frame wireLength traced =
      reportOf settings frame wireLength traced := by
  obtain ⟨dissector, events⟩ := traced
  rw [reportOf_eq, reportOf_eq]

/-- What comes of a frame does not depend on the way in which the descriptor is written. -/
theorem runFrame_packed (packed : Bool) (frame : Octets) :
    runFrame { settings with packed } registry frame = runFrame settings registry frame := by
  unfold runFrame
  simp only [reportOf_packed]
  rfl

/-- A frame that is longer than the packet was on the wire is refused. -/
theorem runFrame_of_lt (short : settings.wireLength.getD frame.size < frame.size) :
    runFrame settings registry frame =
      .returned (.error (.wireLength (settings.wireLength.getD frame.size) frame.size)) :=
  if_pos short

/-- Any other frame is dissected, and the report shows the packet. -/
theorem runFrame_of_le (wired : frame.size ≤ settings.wireLength.getD frame.size)
    (tunnels : ∀ entry ∈ registry.entries, Tunnel.IsHandler entry.2) :
    ∃ report, runFrame settings registry frame = .returned (.ok report) ∧
      report.Shows settings frame := by
  -- The dissection goes through and leaves a table that fits into a descriptor.
  have start : (fresh settings registry).WellFormed :=
    Session.wellFormed_start settings.config (some registry)
  have tunnelling : (fresh settings registry).Tunnelling := by
    refine ⟨Nat.zero_le _, fun found attached => ?_⟩
    cases attached
    exact tunnels
  have dissected := (fresh settings registry).dissect_whole wired settings.timestamp
  obtain ⟨-, -, evolved⟩ := Dissector.evolves_dissect dissected
  generalize Outcome.closed _ _ = traced at dissected evolved
  obtain ⟨d, events⟩ := traced
  have wellFormed : d.WellFormed := (start.started _ _ _).evolve evolved
  obtain ⟨buffer, descriptor, written, accepted, octets, spans, header⟩ :=
    exists_descriptor wellFormed settings.endian
  have captured : d.captureLength = frame.size := evolved.keeps.captureLength_eq
  have wire : d.wireLength = settings.wireLength.getD frame.size := evolved.keeps.wireLength_eq
  refine ⟨{ captureLength := frame.size, wireLength := settings.wireLength.getD frame.size,
            spans := d.spans, endian := settings.endian,
            descriptor := buffer.extract 0 (Layout.size d.recordCount), events }, ?_, rfl, rfl,
    ⟨descriptor, accepted, octets, spans, ?_, ?_⟩, ?_, fun fits => ?_⟩
  · -- A dissector that is reset before its first packet is the one it was.
    have blank : ({ config := settings.config, registry := some registry } : Dissector).reset =
        fresh settings registry := rfl
    rw [runFrame]
    dsimp only
    rw [if_neg (Nat.not_lt.mpr wired), blank, dissected]
    dsimp only
    rw [reportOf_eq, written]
  · rw [header, ← captured]
    exact Dissector.toNat_saturate d.captureLength
  · rw [header, ← wire]
    exact Dissector.toNat_saturate d.wireLength
  · rw [Report.text?, accepted]
    rfl
  · exact (Dissector.runsSafely_dissect start tunnelling fits dissected).safe

end Frame

/-! ## Runs -/

section Run

variable (settings : Settings)

/-- A run returns with its result. -/
theorem execute_eq_returned : execute settings = .returned (run settings) := by
  unfold run
  split
  · next ended => exact ended
  · next cause ended => exact absurd ended (execute_ne_aborted settings cause)

/-- What a run returned with is its result. -/
theorem run_of_execute {result : Except RunError Report}
    (ended : execute settings = .returned result) : run settings = result := by
  rw [execute_eq_returned] at ended
  exact RunOutcome.returned.inj ended

/-- A run whose frame can be put together dissects it with the handlers asked for. -/
theorem execute_of_joinFrame {frame : Octets} (parsed : joinFrame settings.frame = .ok frame) :
    execute settings =
      runFrame settings (if settings.noTunnels then .empty else Tunnel.registry) frame := by
  rw [execute, parsed, settings.registry_eq]

/-- A run fails with the error of the first part that is not hexadecimal. -/
theorem run_of_parts_error {front rest : List String} {part : String} {error : Text.FrameError}
    (split : settings.frame = front ++ part :: rest)
    (readable : ∀ before ∈ front, (Text.parseFrame before).isOk = true)
    (unreadable : Text.parseFrame part = .error error) : run settings = .error (.frame error) := by
  apply run_of_execute
  rw [execute, split, joinFrame_of_error readable unreadable]

section Parts

variable {parts : List Octets} (parsed : settings.frame.mapM Text.parseFrame = .ok parts)

include parsed

/-- A run fails if the parts have more octets than the packet had on the wire. -/
theorem run_of_parts_lt {wire : Nat} (given : settings.wireLength = some wire)
    (short : wire < (joined parts).size) :
    run settings = .error (.wireLength wire (joined parts).size) := by
  have below : settings.wireLength.getD (joined parts).size < (joined parts).size := by
    rw [given]
    exact short
  apply run_of_execute
  rw [execute_of_joinFrame settings (joinFrame_of_mapM parsed), runFrame_of_lt settings _ below,
    given]
  rfl

/-- Any other run reports the packet. -/
theorem exists_report_of_parts
    (enough : ∀ wire, settings.wireLength = some wire → (joined parts).size ≤ wire) :
    ∃ report, run settings = .ok report ∧ report.Shows settings (joined parts) := by
  -- Without a wire length the frame was as long on the wire as it is.
  have wired : (joined parts).size ≤ settings.wireLength.getD (joined parts).size := by
    cases given : settings.wireLength with
    | none => exact Nat.le_refl _
    | some wire => exact enough wire given
  obtain ⟨report, reported, shows⟩ := runFrame_of_le settings _ wired settings.isHandler_of_mem
  refine ⟨report, run_of_execute settings ?_, shows⟩
  rw [execute_of_joinFrame settings (joinFrame_of_mapM parsed), reported]

end Parts

/-- A run does not depend on the way in which the descriptor is written. -/
theorem run_packed (packed : Bool) : run { settings with packed } = run settings := by
  have same : execute { settings with packed } = execute settings := by
    cases parsed : joinFrame settings.frame with
    | error error => rw [execute, execute, parsed]
    | ok frame =>
      have parsed' : joinFrame { settings with packed }.frame = .ok frame := parsed
      rw [execute_of_joinFrame settings parsed, execute_of_joinFrame _ parsed', runFrame_packed]
  apply run_of_execute
  rw [same, execute_eq_returned]

/-- A run does not fail for want of room for the handlers or for the descriptor. -/
theorem run_ne_descriptor (error : Error) : run settings ≠ .error (.descriptor error) := by
  intro failed
  have ended := execute_eq_returned settings
  rw [failed] at ended
  cases parsed : joinFrame settings.frame with
  | error reason =>
    rw [execute, parsed] at ended
    cases ended
  | ok frame =>
    rw [execute_of_joinFrame settings parsed] at ended
    by_cases wired : frame.size ≤ settings.wireLength.getD frame.size
    · obtain ⟨report, reported, -⟩ := runFrame_of_le settings _ wired settings.isHandler_of_mem
      rw [reported] at ended
      cases ended
    · rw [runFrame_of_lt settings _ (by omega)] at ended
      cases ended

/-- No run is aborted by an assertion of the dissector: each returns with its result. It fails with
the error of the first part that is not hexadecimal. If all parts are, it fails exactly if a wire
length was given that is below the number of their octets, and otherwise it reports the packet. It
never fails because of a descriptor, and the way in which the descriptor is written does not
matter. -/
theorem run_total :
    ((∀ cause, execute settings ≠ .aborted cause) ∧ execute settings = .returned (run settings)) ∧
    (∀ front part rest error, settings.frame = front ++ part :: rest →
      (∀ before ∈ front, (Text.parseFrame before).isOk = true) →
      Text.parseFrame part = .error error → run settings = .error (.frame error)) ∧
    (∀ parts, settings.frame.mapM Text.parseFrame = .ok parts →
      (∀ wire, settings.wireLength = some wire → wire < (joined parts).size →
        run settings = .error (.wireLength wire (joined parts).size)) ∧
      ((∀ wire, settings.wireLength = some wire → (joined parts).size ≤ wire) →
        ∃ report, run settings = .ok report ∧ report.Shows settings (joined parts))) ∧
    (∀ error, run settings ≠ .error (.descriptor error)) ∧
    ∀ packed, run { settings with packed } = run settings := by
  refine ⟨⟨execute_ne_aborted settings, execute_eq_returned settings⟩, ?_, fun parts parsed => ?_,
    run_ne_descriptor settings, run_packed settings⟩
  · intro front part rest error split readable unreadable
    exact run_of_parts_error settings split readable unreadable
  · exact ⟨fun wire given short => run_of_parts_lt settings parsed given short,
      exists_report_of_parts settings parsed⟩

end Run

/-- An IPv4 header in two parts. It is reported, refused if it is said to have been shorter on the
wire, and refused with the error of its second part if there are two that are not hexadecimal. -/
theorem run_total_ipv4 :
    let settings : Settings :=
      { frame := ["0x45:00-0014 00000000", "403B 0000 0a000001 0a000002"], rawIp := true,
        endian := .big }
    (∃ report, run settings = .ok report ∧ report.captureLength = 20 ∧
      report.text?.isSome = true) ∧
    run { settings with wireLength := some 19 } = .error (.wireLength 19 20) ∧
    run { settings with frame := ["4500", "0g", "0"] } =
      .error (.frame (.invalidDigit 'g')) := by
  intro settings
  have told : (settings.frame.mapM Text.parseFrame).toOption.map (fun parts => (joined parts).size) =
      some 20 := by
    decide +kernel
  obtain ⟨parts, parsed, size⟩ := ok_of_map_toOption told
  refine ⟨?_, ?_, ?_⟩
  · obtain ⟨-, -, whole, -, -⟩ := run_total settings
    obtain ⟨report, reported, shows⟩ := (whole parts parsed).2 nofun
    exact ⟨report, reported, shows.captureLength_eq.trans size, shows.shown⟩
  · obtain ⟨-, -, whole, -, -⟩ := run_total { settings with wireLength := some 19 }
    have refused := (whole parts parsed).1 19 rfl (by rw [size]; decide)
    rw [size] at refused
    exact refused
  · obtain ⟨-, first, -⟩ := run_total { settings with frame := ["4500", "0g", "0"] }
    exact first ["4500"] "0g" ["0"] _ rfl (by decide +kernel) rfl

end FrameSpans.CommandLine
