import FrameSpans.Dissector.Output
import FrameSpans.Proofs.Descriptor.View
import FrameSpans.Proofs.Session.Reachable

/-!
# The descriptor of a session

Whatever a session did, its descriptor can be written into every buffer that is long enough, both
writers write the same, and who reads it finds the spans and the header of the dissector again
(`descriptor_of_session`). A table that does not outgrow its room has a record count that fits, and
a framing that is known fits as well, so only the ports, the hash and its type are cut to their
fields.
-/

namespace FrameSpans

/-- A known framing fits into its field. -/
theorem L2Type.ofValue_value {type : L2Type} (known : type.isKnown = true) :
    ofValue (type.value &&& 0x1f) = type := by
  cases type with
  | unknown => cases known
  | _ => rfl

namespace Dissector

/-- A length is shown exactly up to the greatest one that fits. -/
theorem toNat_saturate (length : Nat) : (saturate length).toNat = min length 65535 := by
  have bound : min length 65535 < UInt16.size :=
    Nat.lt_of_le_of_lt (Nat.min_le_right ..) (by decide)
  rw [saturate, UInt16.toNat_ofNat_of_lt' bound]

/-- The descriptor of a dissector whose table has not outgrown its room is found again in every
buffer that it was written into. -/
theorem ofOctets_writePacked {d : Dissector} (few : d.recordCount ≤ maxRecords) {out : Octets}
    (room : Layout.size d.recordCount ≤ out.size) (endian : Endian) :
    ∃ buffer descriptor,
      d.writePacked out endian = (.ok (Layout.size d.recordCount), buffer) ∧
        Descriptor.ofOctets buffer endian = .ok descriptor ∧
        descriptor.size = Layout.size d.recordCount ∧ descriptor.spans = d.spans ∧
        descriptor.header = d.header.reduced := by
  obtain ⟨buffer, descriptor, stored, found, size, spans, header⟩ :=
    Descriptor.ofOctets_store d.header few room endian
  rw [← Descriptor.writePacked_eq] at stored
  exact ⟨buffer, descriptor, stored, found, size, spans, header⟩

end Dissector

/-- Whatever the policy, the handlers and the operations, both writers store the descriptor of a
session in every buffer with room for it. It is read again with the spans of the dissector and with
its header, the ports cut to six bits, the hash to twenty-four and the hash type to four. -/
theorem descriptor_of_session (config : Config) (registry : Option Registry)
    (operations : List Operation) (endian : Endian) (out : Octets)
    (room : 24 + 4 * ((Session.start config registry).run operations).dissector.recordCount ≤
      out.size) :
    let d := ((Session.start config registry).run operations).dissector
    ∃ buffer descriptor,
      d.writeFields out endian = (.ok (24 + 4 * d.recordCount), buffer) ∧
        d.writePacked out endian = (.ok (24 + 4 * d.recordCount), buffer) ∧
        Descriptor.ofOctets buffer endian = .ok descriptor ∧
        descriptor.size = 24 + 4 * d.recordCount ∧ descriptor.spans = d.spans ∧
        descriptor.header =
          { d.header with
            rxPort := d.header.rxPort &&& 0x3f
            txPort := d.header.txPort &&& 0x3f
            hash := d.header.hash &&& 0xffffff
            hashType := d.header.hashType &&& 0xf } ∧
        descriptor.header.captureLength.toNat = min d.captureLength 65535 ∧
        descriptor.header.wireLength.toNat = min d.wireLength 65535 := by
  intro d
  have wellFormed : d.WellFormed := Session.wellFormed_run config registry operations
  have length : Layout.size d.recordCount = 24 + 4 * d.recordCount := by
    rw [Layout.size_eq]
    omega
  obtain ⟨buffer, descriptor, written, found, size, spans, header⟩ :=
    Dissector.ofOctets_writePacked wellFormed.recordCount_le (length ▸ room) endian
  have fields : d.writeFields out endian = d.writePacked out endian := by
    rw [Dissector.writeFields, Descriptor.writeFields_eq, ← Descriptor.writePacked_eq,
      Dissector.writePacked]
  have framing : L2Type.ofValue (d.header.l2Type.value &&& 0x1f) = d.header.l2Type :=
    L2Type.ofValue_value wellFormed.known_framing
  rw [Header.reduced, framing] at header
  rw [length] at written size
  refine ⟨buffer, descriptor, fields.trans written, written, found, size, spans, header, ?_, ?_⟩
  · rw [header]
    exact Dissector.toNat_saturate d.captureLength
  · rw [header]
    exact Dissector.toNat_saturate d.wireLength

/-- The descriptor of a UDP packet that was received on a port too wide for its field. -/
theorem descriptor_of_udp_packet :
    let frame : Octets :=
      #[2, 0, 0, 0, 0, 1, 2, 0, 0, 0, 0, 2, 0x08, 0x00, 0x45, 0, 0, 28, 0, 0, 0, 0, 64, 17, 0, 0,
        10, 0, 0, 1, 10, 0, 0, 2, 0x12, 0xb5, 0x12, 0xb5, 0, 8, 0, 0]
    let operations : List Operation := [.setRxPort 0xff, .dissect frame 42 70000 7]
    24 + 4 * ((Session.start {} none).run operations).dissector.recordCount ≤ 36 ∧
      ∃ buffer descriptor, Descriptor.ofOctets buffer .big = .ok descriptor ∧
        descriptor.spans = [⟨.ethernet, 0, 14⟩, ⟨.ipv4, 14, 20⟩, ⟨.udp, 34, 8⟩] ∧
        descriptor.header.rxPort = 0x3f ∧ descriptor.header.wireLength.toNat = 65535 := by
  intro frame operations
  have room : 24 + 4 * ((Session.start {} none).run operations).dissector.recordCount ≤ 36 := by
    decide +kernel
  obtain ⟨buffer, descriptor, -, -, found, -, spans, header, -, wire⟩ :=
    descriptor_of_session {} none operations .big (.replicate 36 0) room
  refine ⟨room, buffer, descriptor, found, ?_, ?_, ?_⟩
  · rw [spans]
    decide +kernel
  · rw [header]
    decide +kernel
  · rw [wire]
    decide +kernel

end FrameSpans
