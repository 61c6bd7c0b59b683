import FrameSpans.Proofs.Dissector.Offers
import FrameSpans.Proofs.Dissector.Overlap
import FrameSpans.Proofs.Dissector.VlanTags

/-!
# Which headers have no word

The word of a span holds every position in a frame of up to 8192 octets, but no length above 4095.
Headers that are longer exist: tags and extension headers may follow one another as long as the
capture goes on. Their spans are refused for the lack of a word, although they lie in the capture:
an Ethernet header with more than 1020 tags is not recorded (`Dissector.refused_of_tags`), and an
IPv6 header with more than 4055 octets of extension headers is recorded without them
(`Dissector.refused_of_chain`).

`unencodable_headers` tells that this happens to no other spans. All others that are offered are
short (`Dissector.sized_dissectCapture`), and the table has a word for them.
-/

namespace FrameSpans

/-! ## Spans without a word -/

namespace Dissector

variable {d : Dissector} {span : Span}

/-- The span ends within the capture, and its offset or its length does not fit into a word. -/
def Overlong (d : Dissector) (span : Span) : Prop :=
  span.offset + span.length ≤ d.captureLength ∧
    (Span.maxOffset < span.offset ∨ Span.maxLength < span.length)

/-- A span in the capture that has no word does not fit into one. -/
theorem overlong_of_wordFor (h : d.wordFor span = .error .unencodable) : d.Overlong span := by
  unfold wordFor at h
  split at h
  · cases h
  · next stop ends =>
    unfold Span.end? at ends
    split at ends
    · cases ends
      split at h
      · cases h
      · next within =>
        refine ⟨Nat.not_lt.mp within, ?_⟩
        by_contra fits
        rw [Span.encode, if_neg fits] at h
        cases h
    · cases ends

/-- A span that was refused for its word does not fit into one. -/
theorem overlong_of_offer (h : d.offer span = .error .unencodable) : d.Overlong span := by
  unfold offer at h
  split at h
  · cases h
  · split at h
    · next refused =>
      cases h
      exact overlong_of_wordFor refused
    · split at h <;> cases h

/-- A span that was refused for its word in the place of a record does not fit into one. -/
theorem overlong_of_widen {index : Nat} (h : d.widen index span = .error .unencodable) :
    d.Overlong span := by
  unfold widen at h
  split at h
  · cases h
  · split at h
    · next refused =>
      cases h
      exact overlong_of_wordFor refused
    · cases h

section Overlong

variable (h : d.Overlong span) (roomy : d.captureLength < offsetBound)

include h roomy

/-- A span that does not fit into a word has none. -/
theorem wordFor_of_overlong : d.wordFor span = .error .unencodable := by
  obtain ⟨within, wide⟩ := h
  have ends : span.end? = some (span.offset + span.length) := if_pos (by omega)
  rw [wordFor, ends]
  dsimp only
  rw [if_neg (Nat.not_lt.mpr within), Span.encode, if_pos wide]

/-- A table with room refuses a span that does not fit into a word. -/
theorem offer_of_overlong (free : d.isFull = false) : d.offer span = .error .unencodable := by
  rw [offer, if_neg (by rw [free]; decide), wordFor_of_overlong h roomy]

/-- A record does not give its place to a span that does not fit into a word. -/
theorem widen_of_overlong {index : Nat} (occupied : index < d.recordCount) :
    d.widen index span = .error .unencodable := by
  rw [widen, if_neg (Nat.not_le.mpr occupied), wordFor_of_overlong h roomy]

end Overlong

end Dissector

/-! ## Headers without a word -/

/-- A datagram that starts with an IPv6 header and its chain of extension headers is read as one
header with its chain. -/
theorem Reading.ip_of_visits {data : Octets} {first next : UInt8}
    (start : data.octet? 0 = some first) (version : IpVersion.ofFirstOctet? first = some .v6)
    (type : data.octet? 6 = some next) {length : Nat} {last : IpProtocol}
    (chain : Chain.Visits data Ipv6Header.size (.ofValue next) length last)
    (ends : Chain.Ends data length last) (within : length ≤ data.size)
    (roomy : data.size < offsetBound) :
    ∃ marks more rest, Ipv6Header.size + more = length ∧
      ip data 0 = after [.chained ⟨.ipv6, 0, Ipv6Header.size⟩ marks more] rest := by
  have behind := chain.le
  obtain ⟨header, read⟩ := Ipv6Header.exists_read (by omega : 0 + Ipv6Header.size ≤ data.size)
  obtain ⟨octet, field, told⟩ := Ipv6Header.fields_of_read read
  rw [Nat.zero_add, type] at field
  obtain rfl := Option.some.inj field
  rw [← told] at chain
  obtain ⟨found, followed, sum⟩ := Chain.follow_of_visits chain (Nat.add_zero _).symm true
    (by omega) ends
  have begins : advance 0 Ipv6Header.size = .ok Ipv6Header.size := by decide
  have payload : advance Ipv6Header.size found.length = .ok (Ipv6Header.size + found.length) :=
    if_pos (by omega)
  refine ⟨found.marks, found.length, if !found.complete then stopped .truncated
    else if !found.isFirstFragment then complete
    else ipPayload data (Ipv6Header.size + found.length) found.next .ipv6, sum, ?_⟩
  rw [ip, start]
  dsimp only
  rw [version]
  dsimp only
  rw [ipv6, read, attempt_ok, begins, attempt_ok, Chain.read, followed, attempt_ok, payload,
    attempt_ok]

namespace Dissector

variable {d : Dissector}

/-- What the first steps of a capture leave is told of the whole capture. -/
theorem dissect_of_steps {frame : Octets} {wireLength : Nat} (wired : frame.size ≤ wireLength)
    (timestamp : UInt64) {steps : List Step} {rest : Reading}
    (reading : readLink d.config.link frame = Reading.after steps rest) {event : Event}
    (h : event ∈ ((d.started frame.size wireLength timestamp).takeAll steps).2) :
    ∃ traced, d.dissect frame frame.size wireLength timestamp = .ok traced ∧ event ∈ traced.2 := by
  refine ⟨_, d.dissect_whole wired timestamp, Outcome.events_subset_closed _ _ ?_⟩
  show event ∈ (follow _ frame (readLink d.config.link frame) _).events
  rw [reading, follow_after]
  exact List.mem_append_left _ h

/-- A header with its chain is refused if it does not fit into a word, even if the header alone
does. -/
theorem refused_of_takeChained {base : Span} {marks : List Mark} {length : Nat}
    (free : d.isFull = false) (admits : d.Admits base) (chained : length ≠ 0)
    (overlong : d.Overlong { base with length := base.length + length })
    (roomy : d.captureLength < offsetBound) :
    .refused { base with length := base.length + length } .unencodable ∈
      (d.takeChained base marks length).2 := by
  obtain ⟨recorded, offered⟩ := offer_of_admits free admits
  have stored := Evolves.store offered
  have marked := recorded.evolves_takeMarks marks
  have same : (recorded.takeMarks marks).1.captureLength = d.captureLength :=
    marked.keeps.captureLength_eq.trans stored.keeps.captureLength_eq
  -- The header was recorded, so there is a record to widen when the marks were taken.
  have occupied : d.recordCount < (recorded.takeMarks marks).1.recordCount := by
    have one : recorded.recordCount = d.recordCount + 1 := stored.recordCount_eq
    have more := marked.recordCount_eq
    omega
  have still : (recorded.takeMarks marks).1.Overlong
      { base with length := base.length + length } := by
    unfold Overlong
    rw [same]
    exact overlong
  have kept := widen_of_overlong still (same ▸ roomy) occupied
  unfold takeChained
  rw [offered]
  dsimp only
  rw [if_neg chained, updateSpan, kept]
  exact List.mem_append_right _ (List.mem_singleton.mpr rfl)

section Refused

variable (free : d.isFull = false) {wireLength : Nat} (timestamp : UInt64)

include free

/-- The Ethernet header of a frame with more tags than a word has room for is not recorded. -/
theorem refused_of_tags (link : d.config.link = .ethernet) {frame : Octets} {type : UInt16}
    (field : frame.word16? EthernetHeader.typeAt = some type) (ethertype : ¬type ≤ 1500)
    (untagged : (EtherType.ofValue type).isTag = false) (tags : List VlanTag)
    (long : Span.maxLength < EthernetHeader.size + 4 * tags.length)
    (roomy : (frame.tagged tags).size + overhang < offsetBound)
    (wired : (frame.tagged tags).size ≤ wireLength) :
    ∃ traced, d.dissect (frame.tagged tags) (frame.tagged tags).size wireLength timestamp =
        .ok traced ∧
      .refused ⟨.ethernet, 0, EthernetHeader.size + 4 * tags.length⟩ .unencodable ∈ traced.2 := by
  have size := Octets.size_tagged (EthernetHeader.typeAt_le field) tags
  have captured : EthernetHeader.size ≤ frame.size := Octets.lt_size_of_word16? field
  have reading : readLink d.config.link (frame.tagged tags) =
      Reading.after [.header ⟨.ethernet, 0, EthernetHeader.size + 4 * tags.length⟩]
        (Reading.behindTags ⟨.ofValue type, EthernetHeader.size + 4 * tags.length, true⟩
          (frame.tagged tags) 0) := by
    rw [link, readLink, Reading.ethernet_of_tags field roomy fun _ => ethertype,
      TaggedType.unwrap_eq, if_neg (by rw [untagged]; decide), Reading.attempt_ok]
  have overlong : (d.started (frame.tagged tags).size wireLength timestamp).Overlong
      ⟨.ethernet, 0, EthernetHeader.size + 4 * tags.length⟩ := by
    refine ⟨?_, .inr long⟩
    show 0 + (EthernetHeader.size + 4 * tags.length) ≤ (frame.tagged tags).size
    omega
  have denied := offer_of_overlong overlong (Nat.lt_of_add_right_lt roomy) free
  refine dissect_of_steps wired timestamp reading (List.mem_append_left _ ?_)
  show _ ∈ (Dissector.addSpan _ _).2
  rw [addSpan, denied]
  exact List.mem_singleton.mpr rfl

/-- A frame with 1021 tags has an Ethernet header of 4098 octets, which is not recorded. -/
theorem refused_of_vlan (link : d.config.link = .ethernet) :
    let tags : List VlanTag := List.replicate 1021 ⟨.vlan, rfl, 0, 0⟩
    let frame := Octets.tagged #[2, 0, 0, 0, 0, 1, 2, 0, 0, 0, 0, 2, 0x88, 0xb5] tags
    frame.size = 4098 ∧ ∃ traced, d.dissect frame frame.size 4098 timestamp = .ok traced ∧
      .refused ⟨.ethernet, 0, 4098⟩ .unencodable ∈ traced.2 := by
  intro tags frame
  have count : tags.length = 1021 := List.length_replicate
  have size : frame.size = 4098 := by
    show (Octets.tagged _ tags).size = 4098
    rw [Octets.size_tagged (by decide), count]
    rfl
  have long : Span.maxLength < EthernetHeader.size + 4 * tags.length := by
    rw [count]
    decide
  have roomy : frame.size + overhang < offsetBound := by
    rw [size]
    decide
  obtain ⟨traced, dissected, refused⟩ := refused_of_tags free timestamp link
    (by decide : _ = some (0x88b5 : UInt16)) (by decide) rfl tags long roomy (Nat.le_of_eq size)
  rw [count] at refused
  exact ⟨size, traced, dissected, refused⟩

/-- An IPv6 header whose chain of extension headers has more octets than a word has room for is
recorded without them. -/
theorem refused_of_chain (link : d.config.link = .rawIp) {frame : Octets} {first next : UInt8}
    (start : frame.octet? 0 = some first) (version : IpVersion.ofFirstOctet? first = some .v6)
    (type : frame.octet? 6 = some next) {length : Nat} {last : IpProtocol}
    (chain : Chain.Visits frame Ipv6Header.size (.ofValue next) length last)
    (ends : Chain.Ends frame length last) (long : Span.maxLength < length)
    (within : length ≤ frame.size) (roomy : frame.size < offsetBound)
    (wired : frame.size ≤ wireLength) :
    ∃ traced, d.dissect frame frame.size wireLength timestamp = .ok traced ∧
      .refused ⟨.ipv6, 0, length⟩ .unencodable ∈ traced.2 := by
  obtain ⟨marks, more, rest, rfl, reads⟩ :=
    Reading.ip_of_visits start version type chain ends within roomy
  have reading : readLink d.config.link frame = Reading.after
      [.framing .rawIp, .chained ⟨.ipv6, 0, Ipv6Header.size⟩ marks more] rest := by
    rw [link, readLink, reads]
    rfl
  -- Telling the framing touches neither the table nor the capture.
  let begun := (d.started frame.size wireLength timestamp).setFraming .rawIp
  have same : begun.captureLength = frame.size := (Evolves.framing _ rfl).keeps.captureLength_eq
  have still : begun.isFull = false := by
    show Dissector.isFull (setFraming _ _) = false
    unfold setFraming
    split <;> exact free
  have admits : begun.Admits ⟨.ipv6, 0, Ipv6Header.size⟩ := by
    refine ⟨?_, Nat.zero_le _, by decide⟩
    rw [same]
    show 0 + Ipv6Header.size ≤ frame.size
    omega
  have overlong : begun.Overlong ⟨.ipv6, 0, Ipv6Header.size + more⟩ := by
    refine ⟨?_, .inr long⟩
    rw [same]
    show 0 + (Ipv6Header.size + more) ≤ frame.size
    omega
  have chained : more ≠ 0 := by
    rintro rfl
    exact absurd long (by decide)
  have refused : .refused ⟨.ipv6, 0, Ipv6Header.size + more⟩ .unencodable ∈
      (begun.takeChained ⟨.ipv6, 0, Ipv6Header.size⟩ marks more).2 :=
    refused_of_takeChained still admits chained overlong (same ▸ roomy)
  exact dissect_of_steps wired timestamp reading
    (List.mem_append_right _ (List.mem_append_left _ refused))

end Refused

/-- Two headers of destination options, each of the greatest length that an extension header tells,
are more than a word has room for. -/
theorem refused_of_chain_options :
    let frame : Octets := #[0x60, 0, 0, 0, 0x10, 0, 60, 64] ++ Array.replicate 32 0 ++
      #[60, 255] ++ Array.replicate 2046 0 ++ #[59, 255] ++ Array.replicate 2046 0
    let d : Dissector := { config := { link := .rawIp } }
    frame.size = 4136 ∧ ∃ traced, d.dissect frame frame.size frame.size 0 = .ok traced ∧
      .refused ⟨.ipv6, 0, 4136⟩ .unencodable ∈ traced.2 := by
  intro frame d
  have size : frame.size = 4136 := by simp [frame]
  have outer : frame.octet? 40 = some 60 ∧ frame.octet? 41 = some 255 := by
    simp [frame, Octets.octet?]
  have inner : frame.octet? 2088 = some 59 ∧ frame.octet? 2089 = some 255 := by
    simp [frame, Octets.octet?]
  have chain : Chain.Visits frame Ipv6Header.size (.ofValue 60) 4136 (.ofValue 59) :=
    .behind rfl (ExtensionHeader.read?_units8 outer.1 outer.2)
      (.behind rfl (ExtensionHeader.read?_units8 inner.1 inner.2) (.here _ _))
  have start : frame.octet? 0 = some 0x60 := by simp [frame, Octets.octet?]
  have type : frame.octet? 6 = some 60 := by simp [frame, Octets.octet?]
  have ends : Chain.Ends frame 4136 (.ofValue 59) := nofun
  have roomy : frame.size < offsetBound := by
    rw [size]
    decide
  exact ⟨size, refused_of_chain (d := d) rfl 0 rfl start rfl type chain ends (by decide)
    (Nat.le_of_eq size.symm) roomy (Nat.le_refl _)⟩

end Dissector

/-! ## All spans without a word -/

/-- Whatever the policy and with or without tunnel handlers, each span that is offered has at most
2048 octets, unless it is that of a header whose length is a sum: an Ethernet header with its tags,
or an IPv6 header with its chain of extension headers.

In a frame of up to 8192 octets, a span in the capture is refused for its word only if it is longer
than 4095 octets, so only these two can be. -/
theorem unencodable_headers (d : Dissector)
    (tunnels : ∀ registry, d.registry = some registry →
      ∀ entry ∈ registry.entries, Tunnel.IsHandler entry.2)
    {frame : Octets} (jumbo : frame.size ≤ Span.maxOffset + 1) {captureLength wireLength : Nat}
    (timestamp : UInt64) (held : captureLength ≤ frame.size) (wired : captureLength ≤ wireLength) :
    ∃ traced, d.dissect frame captureLength wireLength timestamp = .ok traced ∧
      (∀ event ∈ traced.2, event.Offers (Span.Sized (frame.extract 0 captureLength))) ∧
      ∀ span, .refused span .unencodable ∈ traced.2 →
        span.offset + span.length ≤ captureLength ∧ Span.maxLength < span.length ∧
          span.Summed (frame.extract 0 captureLength) := by
  have size : (frame.extract 0 captureLength).size = captureLength := by
    rw [Array.size_extract]
    omega
  have sized := Outcome.offers_closed (Dissector.sized_dissectCapture
    (d := d.started captureLength wireLength timestamp) size.symm tunnels) (.capture captureLength)
  refine ⟨_, d.dissect_held held wired timestamp, sized, fun span refused => ?_⟩
  have evolved := Outcome.evolves_closed (Dissector.evolves_dissectCapture
    (d.started captureLength wireLength timestamp) (frame.extract 0 captureLength))
    (.capture captureLength)
  obtain ⟨before, same, denied⟩ := evolved.of_refused refused
  -- Only a span that does not fit into a word is refused for want of one.
  have overlong : before.Overlong span := by
    rcases denied with offered | ⟨index, kept⟩
    · exact Dissector.overlong_of_offer offered
    · exact Dissector.overlong_of_widen kept
  obtain ⟨within, wide⟩ := overlong
  have within : span.offset + span.length ≤ captureLength := le_of_le_of_eq within same
  have told : span.Sized (frame.extract 0 captureLength) := sized _ refused
  -- Spans are not empty, so one in the frame starts at a position that a word holds.
  have pos := told.pos
  have long : Span.maxLength < span.length := by omega
  refine ⟨within, long, told.resolve_left fun ⟨_, short⟩ => ?_⟩
  unfold Span.maxLength at long
  unfold overhang at short
  omega

/-- A frame with 1021 tags, and the tunnel handlers. Its Ethernet header has 4098 octets. -/
theorem unencodable_headers_tagged :
    let tags : List VlanTag := List.replicate 1021 ⟨.vlan, rfl, 0, 0⟩
    let frame := Octets.tagged #[2, 0, 0, 0, 0, 1, 2, 0, 0, 0, 0, 2, 0x88, 0xb5] tags
    let d : Dissector := { registry := some Tunnel.registry }
    (∀ registry, d.registry = some registry →
        ∀ entry ∈ registry.entries, Tunnel.IsHandler entry.2) ∧
      frame.size ≤ Span.maxOffset + 1 ∧ frame.size ≤ frame.size ∧ frame.size ≤ 4098 ∧
      ∃ traced, d.dissect frame frame.size 4098 0 = .ok traced ∧
        .refused ⟨.ethernet, 0, 4098⟩ .unencodable ∈ traced.2 ∧
        (∀ event ∈ traced.2, event.Offers (Span.Sized (frame.extract 0 frame.size))) ∧
        ∀ span, .refused span .unencodable ∈ traced.2 →
          span.offset + span.length ≤ frame.size ∧ Span.maxLength < span.length ∧
            span.Summed (frame.extract 0 frame.size) := by
  intro tags frame d
  have tunnels : ∀ registry, d.registry = some registry →
      ∀ entry ∈ registry.entries, Tunnel.IsHandler entry.2 := by
    rintro registry ⟨⟩ entry member
    exact Tunnel.isHandler_of_mem_handlers member
  obtain ⟨size, traced, dissected, refused⟩ := Dissector.refused_of_vlan (d := d) rfl 0 rfl
  have jumbo : frame.size ≤ Span.maxOffset + 1 := by
    rw [size]
    decide
  have wired : frame.size ≤ 4098 := Nat.le_of_eq size
  obtain ⟨same, dissected', only⟩ :=
    unencodable_headers d tunnels jumbo 0 (Nat.le_refl frame.size) wired
  cases dissected.symm.trans dissected'
  exact ⟨tunnels, jumbo, Nat.le_refl _, wired, traced, dissected, refused, only⟩

/-- Without handlers, the Ethernet header of a frame of 4098 octets lies in the capture and has no
word. -/
theorem tagged_header_unencodable :
    let tags : List VlanTag := List.replicate 1021 ⟨.vlan, rfl, 0, 0⟩
    let frame := Octets.tagged #[2, 0, 0, 0, 0, 1, 2, 0, 0, 0, 0, 2, 0x88, 0xb5] tags
    let d : Dissector := {}
    frame.size = 4098 ∧ ∃ traced, d.dissect frame frame.size 4098 0 = .ok traced ∧
      .refused ⟨.ethernet, 0, 4098⟩ .unencodable ∈ traced.2 :=
  Dissector.refused_of_vlan rfl 0 rfl

end FrameSpans
