import FrameSpans.Proofs.Dissector.Flags
import FrameSpans.Proofs.Dissector.VlanTags
import FrameSpans.Proofs.Reading.Framing
import FrameSpans.Proofs.Reading.Succession

/-!
# The framing of a capture

The framing is told by the outermost frame and by nothing behind it. `Octets.framing` tells it from
the first octets of a frame, without reading a level: it looks at the type field, at the two octets
behind the header and at how many octets were captured. A level that starts with the frame tells the
same (`Reading.framing_ethernet`), and a dissection keeps what the level told: packets are entered at
a depth other than zero, whether an encapsulation or a handler leads to them, and there no step sets
the framing (`Dissector.keepsFraming_descend`).
-/

namespace FrameSpans

/-- The framing that an Ethernet frame tells. -/
def Octets.framing (data : Octets) : L2Type :=
  match data.word16? EthernetHeader.typeAt with
  | none => .ethernet
  | some type =>
    if 1500 < type then .ethernet
    else if data.word16? 14 = some 0xffff then .novellRaw
    else if data.size < 17 then .ethernet
    else if data.octet? 14 = some sapSnap ∧ data.octet? 15 = some sapSnap ∧ 22 ≤ data.size then
      .snap
    else .llc

/-- The framing that a capture tells. -/
def LinkType.framing (data : Octets) : LinkType → L2Type
  | .ethernet => data.framing
  | .rawIp => .rawIp

/-- The framing is told by the first 22 octets. -/
theorem Octets.framing_extract (data : Octets) :
    Octets.framing (data.extract 0 22) = data.framing := by
  have octet (offset : Nat) (early : offset < 22) :
      (data.extract 0 22)[offset]? = data[offset]? := by
    rw [Array.getElem?_extract, Nat.zero_add]
    split
    · rfl
    · exact (Array.getElem?_eq_none (by omega)).symm
  have word (offset : Nat) (early : offset + 1 < 22) :
      word16? (data.extract 0 22) offset = data.word16? offset := by
    rw [word16?, word16?, octet offset (by omega), octet (offset + 1) early]
  have short : (data.extract 0 22).size < 17 ↔ data.size < 17 := by
    rw [Array.size_extract]
    omega
  have long : 22 ≤ (data.extract 0 22).size ↔ 22 ≤ data.size := by
    rw [Array.size_extract]
    omega
  unfold framing octet?
  rw [word EthernetHeader.typeAt (by decide), word 14 (by decide), octet 14 (by decide),
    octet 15 (by decide)]
  simp only [short, long]

/-! ## Steps that tell the framing -/

/-- The framing behind a step. -/
def Step.framingBehind (type : L2Type) : Step → L2Type
  | .framing found => found
  | .header _ | .mark _ | .chained .. | .payload .. | .remark _ => type

/-- Steps that are taken outside encapsulated packets set the framing that they tell. -/
theorem Flags.l2Type_outermost (flags : Flags) (steps : List Step) :
    (steps.foldl (step 0) flags).l2Type = steps.foldl Step.framingBehind flags.l2Type := by
  induction steps generalizing flags with
  | nil => rfl
  | cons taken rest ih =>
    rw [List.foldl_cons, List.foldl_cons, ih]
    congr 1
    cases taken with
    | mark found => exact l2Type_marks flags [found]
    | chained base marks length => exact l2Type_marks flags marks
    | framing | header | payload | remark => rfl

namespace Reading

/-- The framing behind the steps of a reading. -/
def framing (type : L2Type) (reading : Reading) : L2Type :=
  reading.steps.foldl Step.framingBehind type

/-- A reading that does not tell the framing leaves it as it is. -/
theorem framing_of_unframed (type : L2Type) {reading : Reading}
    (h : reading.Only Step.Unframed) : reading.framing type = type := by
  obtain ⟨steps, ending⟩ := reading
  show steps.foldl Step.framingBehind type = type
  replace h : ∀ step ∈ steps, step.Unframed := h
  induction steps with
  | nil => rfl
  | cons step rest ih =>
    obtain ⟨first, others⟩ := List.forall_mem_cons.mp h
    have still : step.framingBehind type = type := by
      cases step with
      | framing => exact first.elim
      | _ => rfl
    rw [List.foldl_cons, still]
    exact ih others

/-- A SNAP header that was captured tells the framing, and nothing behind it does. -/
theorem framing_snap (type : L2Type) (data : Octets) :
    (snap data 17).framing type = if 22 ≤ data.size then .snap else type := by
  have typeAt : advance 17 snapTypeAt = .ok 20 := rfl
  have payload : advance 17 snapSize = .ok 22 := rfl
  rw [snap, typeAt, attempt_ok, payload, attempt_ok]
  by_cases captured : 22 ≤ data.size
  · obtain ⟨word, found⟩ := Octets.exists_word16? (captured : 20 + 1 < data.size)
    rw [found, if_pos captured]
    exact framing_of_unframed .snap (unframed_etherType data 22 _)
  · have missing : data.word16? 20 = none := by
      cases found : data.word16? 20 with
      | none => rfl
      | some word =>
        have inside := Octets.lt_size_of_word16? found
        omega
    rw [missing, if_neg captured]
    rfl

/-- An 802.3 frame tells its framing by the octets behind its header, as far as they were
captured. -/
theorem framing_ieee8023 {data : Octets} {header : EthernetHeader}
    (h : EthernetHeader.read data 0 = .ok header) :
    (ieee8023 data 14 header).framing .ethernet =
      if data.word16? 14 = some 0xffff then .novellRaw
      else if data.size < 17 then .ethernet
      else if data.octet? 14 = some sapSnap ∧ data.octet? 15 = some sapSnap ∧ 22 ≤ data.size then
        .snap
      else .llc := by
  obtain ⟨-, novellRaw, -⟩ := EthernetHeader.fields_of_read h
  unfold ieee8023
  by_cases raw : data.word16? 14 = some 0xffff
  · rw [if_pos (novellRaw.mpr raw), if_pos raw]
    exact framing_of_unframed .novellRaw (plain_fixed data 14 .ipx ipxSize).unframed
  · rw [if_neg (mt novellRaw.mp raw), if_neg raw]
    by_cases short : data.size < 17
    · have missing : data.behind 14 llcSize = .error .truncated := by
        rw [Octets.behind, Octets.require, if_pos (by unfold Octets.captured llcSize; omega)]
      rw [missing, if_pos short]
      rfl
    · have behind : data.behind 14 llcSize = .ok 17 := by
        rw [Octets.behind, Octets.require, if_neg (by unfold Octets.captured llcSize; omega)]
        rfl
      obtain ⟨dsap, first⟩ := Octets.exists_octet? (by omega : 14 < data.size)
      obtain ⟨ssap, second⟩ := Octets.exists_octet? (by omega : 15 < data.size)
      have points := EthernetHeader.accessPoints_of_read h first second
      rw [behind, attempt_ok, points, if_neg short, first, second]
      simp only [Option.some.injEq]
      by_cases snapped : dsap = sapSnap ∧ ssap = sapSnap
      · -- The SNAP header tells another framing than the LLC header, if it was captured.
        rw [if_pos snapped]
        refine (framing_snap .llc data).trans ?_
        simp only [snapped, true_and]
      · have other : ¬(dsap = sapSnap ∧ ssap = sapSnap ∧ 22 ≤ data.size) :=
          fun told => snapped ⟨told.1, told.2.1⟩
        rw [if_neg snapped, if_neg other]
        apply framing_of_unframed .llc
        split
        · exact (plain_fixed data 17 .ipx ipxSize).unframed
        · exact only_complete

/-- A frame tells the framing that its first octets tell, and nothing behind them does. -/
theorem framing_ethernet (data : Octets) :
    (ethernet data 0).framing .ethernet = data.framing := by
  unfold Octets.framing
  cases field : data.word16? EthernetHeader.typeAt with
  | none =>
    -- The header was not captured.
    rw [ethernet]
    cases read : EthernetHeader.read data 0 with
    | error stop => rfl
    | ok header =>
      have told := (EthernetHeader.fields_of_read read).1
      rw [Nat.zero_add, ← EthernetHeader.typeAt, field] at told
      cases told
  | some type =>
    dsimp only
    by_cases ethertype : 1500 < type
    · rw [if_pos ethertype, ethernet_of_type field (UInt16.not_le.mpr ethertype)]
      apply framing_of_unframed
      rw [only_attempt]
      intro tagged _
      refine .after_one trivial ?_
      unfold behindTags
      split
      · rw [only_attempt]
        intro payload _
        exact unframed_etherType data payload _
      · exact only_stopped _
    · have captured : 0 + EthernetHeader.size ≤ data.size := Octets.lt_size_of_word16? field
      obtain ⟨header, read⟩ := EthernetHeader.exists_read captured
      cases field.symm.trans (EthernetHeader.fields_of_read read).1
      have is8023 : header.is8023 = true := decide_eq_true (UInt16.not_lt.mp ethertype)
      have behind : advance 0 EthernetHeader.size = .ok 14 := rfl
      rw [if_neg ethertype, ethernet, read, attempt_ok, if_pos is8023, behind, attempt_ok]
      exact framing_ieee8023 read

/-- The outermost level of a capture tells the framing of the capture. -/
theorem framing_readLink (link : LinkType) (data : Octets) :
    (Dissector.readLink link data).framing .ethernet = link.framing data := by
  cases link with
  | ethernet => exact framing_ethernet data
  | rawIp => exact framing_of_unframed .rawIp (unframed_ip data 0)

end Reading

/-! ## Captures -/

namespace Dissector

variable {buffer : Octets} {captureLength wireLength : Nat}

/-- The framing of a capture is the one that the capture tells at its start, for every policy, all
handlers and whatever the capture carries. At an Ethernet link the first 22 octets tell it. No
packet that is entered changes it, on the way or behind the dissection, whoever asks for it. -/
theorem framing_outermost (d : Dissector) (held : captureLength ≤ buffer.size)
    (wired : captureLength ≤ wireLength) (timestamp : UInt64) :
    ∃ traced, d.reset.dissect buffer captureLength wireLength timestamp = .ok traced ∧
      traced.1.scalars.l2Type = d.config.link.framing (buffer.extract 0 captureLength) ∧
      Octets.framing ((buffer.extract 0 captureLength).extract 0 22) =
        Octets.framing (buffer.extract 0 captureLength) ∧
      (∀ levels entry data offset (around : Dissector),
        (descend levels entry data offset around).dissector.scalars.l2Type =
          around.scalars.l2Type) ∧
      ∀ inner data offset,
        (traced.1.dissectInner inner data offset).1.scalars.l2Type = traced.1.scalars.l2Type := by
  refine ⟨_, dissect_held held wired timestamp, ?_, Octets.framing_extract _, keepsFraming_descend,
    ?_⟩
  · rw [Outcome.dissector_closed, l2Type_dissectCapture]
    refine (Flags.l2Type_outermost _ _).trans ?_
    exact Reading.framing_readLink d.config.link (buffer.extract 0 captureLength)
  · intro inner data offset
    exact Granted.reenter (keepsFraming_descend _) _ inner data offset

/-- A SNAP frame with a GRE packet that carries an LLC frame. -/
theorem framing_outermost_bridged_llc :
    let frame : Octets :=
      #[2, 0, 0, 0, 0, 1, 2, 0, 0, 0, 0, 2, 0, 49, 0xaa, 0xaa, 3, 0, 0, 0, 0x08, 0x00,
        0x45, 0, 0, 41, 0, 0, 0, 0, 64, 47, 0, 0, 10, 0, 0, 1, 10, 0, 0, 2, 0, 0, 0x65, 0x58,
        2, 0, 0, 0, 0, 3, 2, 0, 0, 0, 0, 4, 0, 3, 0x42, 0x42, 3]
    let d : Dissector := {}
    63 ≤ frame.size ∧ 63 ≤ 63 ∧ LinkType.ethernet.framing (frame.extract 0 63) = .snap ∧
      ∃ traced, d.reset.dissect frame 63 63 0 = .ok traced ∧
        traced.1.scalars.l2Type = .snap ∧
        traced.1.spans = [⟨.ethernet, 0, 14⟩, ⟨.llc, 14, 3⟩, ⟨.snap, 17, 5⟩, ⟨.ipv4, 22, 20⟩,
          ⟨.gre, 42, 4⟩, ⟨.ethernet, 46, 14⟩, ⟨.llc, 60, 3⟩] := by
  intro frame d
  have held : 63 ≤ frame.size := by decide
  have told : LinkType.ethernet.framing (frame.extract 0 63) = .snap := by decide +kernel
  obtain ⟨traced, dissected, framing, -⟩ := framing_outermost d held (by decide : 63 ≤ 63) 0
  have found : (d.reset.dissect frame 63 63 0).toOption.map (fun traced => traced.1.spans) =
      some [⟨.ethernet, 0, 14⟩, ⟨.llc, 14, 3⟩, ⟨.snap, 17, 5⟩, ⟨.ipv4, 22, 20⟩,
        ⟨.gre, 42, 4⟩, ⟨.ethernet, 46, 14⟩, ⟨.llc, 60, 3⟩] := by
    decide +kernel
  rw [dissected] at found
  exact ⟨held, by decide, told, traced, dissected, framing.trans told, Option.some.inj found⟩

end Dissector

end FrameSpans
