import FrameSpans.Header.Ethernet
import FrameSpans.Header.Ip
import FrameSpans.Header.Overlay
import FrameSpans.Header.Transport

/-!
# Headers are checked before they are read

`Guarded size result Q` says of a result read from `size` octets that it has the property `Q`,
unless reading stopped. It may stop with `truncated` at any time, but with `fault` only if the
octets reach up to the last positions that an offset can hold, which no capture does.

Every reader of a header is guarded: it checks for the whole header first (`guarded_require`), and
then each octet it accesses is there (`guarded_octet`). What it gives always lies in a header that
was captured completely.
-/

namespace FrameSpans

/-- The end of a header may lie this many octets behind the end of the capture, because the lengths
that some headers tell are not checked against it. -/
def overhang : Nat := 2048

/-- Reading may stop at the end of the capture. It may fault only where positions a little behind
the capture are no offsets any more. -/
def Stop.Excused (size : Nat) : Stop → Prop
  | .truncated => True
  | .fault => offsetBound ≤ size + overhang

/-- The value has a property, unless reading stopped, and may be excused for it. -/
def Guarded {α : Type} (size : Nat) (result : Except Stop α) (Q : α → Prop) : Prop :=
  match result with
  | .ok value => Q value
  | .error stop => stop.Excused size

namespace Guarded

variable {α β : Type} {size : Nat} {P Q : α → Prop}

/-- A value is guarded. -/
theorem pure {value : α} (h : Q value) : Guarded size (Pure.pure value) Q :=
  h

/-- Reading goes on with a guarded value. -/
theorem bind {result : Except Stop α} {next : α → Except Stop β} {R : β → Prop}
    (first : Guarded size result Q) (rest : ∀ value, Q value → Guarded size (next value) R) :
    Guarded size (result >>= next) R := by
  cases result with
  | error stop => exact first
  | ok value => exact rest value first

/-- The value that was read has the property. -/
theorem value {result : Except Stop α} (h : Guarded size result Q) {value : α}
    (found : result = .ok value) : Q value := by
  rw [found] at h
  exact h

/-- The stop that ended reading is excused. -/
theorem excused {result : Except Stop α} (h : Guarded size result Q) {stop : Stop}
    (stopped : result = .error stop) : stop.Excused size := by
  rw [stopped] at h
  exact h

/-- A guarded value has weaker properties too. -/
theorem mono {result : Except Stop α} (h : Guarded size result P)
    (weaken : ∀ value, P value → Q value) : Guarded size result Q := by
  cases result with
  | error stop => exact h
  | ok value => exact weaken value h

end Guarded

/-- What is told of a result as an option is told of a value. -/
theorem ok_of_map_toOption {ε α β : Type} {result : Except ε α} {f : α → β} {told : β}
    (h : result.toOption.map f = some told) : ∃ value, result = .ok value ∧ f value = told := by
  cases result with
  | error error => cases h
  | ok value => exact ⟨value, rfl, Option.some.inj h⟩

/-- A result that goes on with a value comes from that value. -/
theorem ok_of_bind {ε α β : Type} {result : Except ε α} {next : α → Except ε β} {last : β}
    (h : (result >>= next) = .ok last) : ∃ value, result = .ok value ∧ next value = .ok last := by
  cases result with
  | error error => cases h
  | ok value => exact ⟨value, rfl, h⟩

/-! ## Positions and octets -/

/-- A sum of positions is formed if it does not lie too far behind the octets. -/
theorem guarded_advance {size offset length : Nat} (h : offset + length ≤ size + overhang) :
    Guarded size (advance offset length) fun next => next = offset + length := by
  unfold advance
  split
  · rfl
  · next beyond =>
    show offsetBound ≤ size + overhang
    omega

namespace Octets

variable (data : Octets)

/-- Behind a check there are as many octets as were checked for. -/
theorem guarded_require (offset : Nat) {length : Nat} (pos : 0 < length) :
    Guarded data.size (data.require offset length) fun _ => offset + length ≤ data.size := by
  unfold require
  split
  · trivial
  · next enough =>
    show offset + length ≤ data.size
    unfold captured at enough
    omega

/-- The position behind a header is given if the header was captured completely. -/
theorem guarded_behind (offset : Nat) {length : Nat} (pos : 0 < length) :
    Guarded data.size (data.behind offset length) fun next =>
      next = offset + length ∧ offset + length ≤ data.size := by
  have checked := data.guarded_require offset pos
  unfold behind
  split
  · next stop missing => exact checked.excused missing
  · next found =>
    have enough : offset + length ≤ data.size := checked.value found
    exact (guarded_advance (by omega)).mono fun next sum => ⟨sum, enough⟩

/-- An octet within the capture can be accessed. -/
theorem guarded_octet {offset : Nat} (h : offset < data.size) :
    Guarded data.size (data.octet offset) fun _ => True := by
  rw [octet, Array.getElem?_eq_getElem h]
  trivial

/-- A 16-bit field within the capture can be accessed. -/
theorem guarded_word16 {offset : Nat} (h : offset + 2 ≤ data.size) :
    Guarded data.size (data.word16 offset) fun _ => True := by
  have here : offset < data.size := by omega
  refine (data.guarded_octet here).bind fun b1 _ => ?_
  refine (data.guarded_octet (by omega)).bind fun b0 _ => ?_
  exact .pure trivial

/-- A 16-bit field within the capture is there. -/
theorem exists_word16? {data : Octets} {offset : Nat} (inside : offset + 1 < data.size) :
    ∃ word, data.word16? offset = some word := by
  have before : offset < data.size := by omega
  unfold word16?
  rw [Array.getElem?_eq_getElem before, Array.getElem?_eq_getElem inside]
  exact ⟨_, rfl⟩

/-- A 16-bit field that is there can be accessed. -/
theorem word16_of_word16? {data : Octets} {offset : Nat} {word : UInt16}
    (h : data.word16? offset = some word) : data.word16 offset = .ok word := by
  unfold word16? at h
  split at h
  · next b1 b0 first second =>
    cases h
    rw [word16, octet, first, octet, second]
    rfl
  · cases h

/-- A 24-bit field within the capture can be accessed. -/
theorem guarded_word24 {offset : Nat} (h : offset + 3 ≤ data.size) :
    Guarded data.size (data.word24 offset) fun _ => True := by
  refine (data.guarded_octet (by omega)).bind fun b2 _ => ?_
  refine (data.guarded_octet (by omega)).bind fun b1 _ => ?_
  refine (data.guarded_octet (by omega)).bind fun b0 _ => ?_
  exact .pure trivial

/-- A 32-bit field within the capture can be accessed. -/
theorem guarded_word32 {offset : Nat} (h : offset + 4 ≤ data.size) :
    Guarded data.size (data.word32 offset) fun _ => True := by
  refine (data.guarded_octet (by omega)).bind fun b3 _ => ?_
  refine (data.guarded_octet (by omega)).bind fun b2 _ => ?_
  refine (data.guarded_octet (by omega)).bind fun b1 _ => ?_
  refine (data.guarded_octet (by omega)).bind fun b0 _ => ?_
  exact .pure trivial

/-- Octets within the capture can be cut out. -/
theorem guarded_slice {offset length : Nat} (h : offset + length ≤ data.size) :
    Guarded data.size (data.slice offset length) fun _ => True := by
  rw [slice, captured, if_neg (by omega)]
  trivial

end Octets

/-! ## Headers -/

/-- An Ethernet header lies within the capture. -/
theorem EthernetHeader.guarded_read (data : Octets) (offset : Nat) :
    Guarded data.size (read data offset) fun _ => offset + size ≤ data.size := by
  refine (data.guarded_require offset (by decide)).bind fun _ enough => ?_
  have inside : offset + 14 ≤ data.size := enough
  refine (data.guarded_slice (by omega)).bind fun destination _ => ?_
  refine (data.guarded_slice (by omega)).bind fun source _ => ?_
  refine (data.guarded_word16 (by omega)).bind fun typeOrLength _ => ?_
  exact .pure enough

/-- The fixed fields of an ARP packet lie within the capture. -/
theorem ArpHeader.guarded_read (data : Octets) (offset : Nat) :
    Guarded data.size (read data offset) fun _ => offset + size ≤ data.size := by
  refine (data.guarded_require offset (by decide)).bind fun _ enough => ?_
  have inside : offset + 8 ≤ data.size := enough
  refine (data.guarded_word16 (by omega)).bind fun hardwareType _ => ?_
  refine (data.guarded_word16 (by omega)).bind fun protocolType _ => ?_
  refine (data.guarded_octet (by omega)).bind fun hardwareLength _ => ?_
  refine (data.guarded_octet (by omega)).bind fun protocolLength _ => ?_
  refine (data.guarded_word16 (by omega)).bind fun operation _ => ?_
  exact .pure enough

/-- The fixed part of an IPv4 header lies within the capture. -/
theorem Ipv4Header.guarded_read (data : Octets) (offset : Nat) :
    Guarded data.size (read data offset) fun _ => offset + size ≤ data.size := by
  refine (data.guarded_require offset (by decide)).bind fun _ enough => ?_
  have inside : offset + 20 ≤ data.size := enough
  refine (data.guarded_octet (by omega)).bind fun first _ => ?_
  refine (data.guarded_word16 (by omega)).bind fun totalLength _ => ?_
  refine (data.guarded_word16 (by omega)).bind fun flags _ => ?_
  refine (data.guarded_octet (by omega)).bind fun protocol _ => ?_
  exact .pure enough

/-- The fixed part of an IPv6 header lies within the capture. -/
theorem Ipv6Header.guarded_read (data : Octets) (offset : Nat) :
    Guarded data.size (read data offset) fun _ => offset + size ≤ data.size := by
  refine (data.guarded_require offset (by decide)).bind fun _ enough => ?_
  have inside : offset + 40 ≤ data.size := enough
  refine (data.guarded_octet (by omega)).bind fun first _ => ?_
  refine (data.guarded_word16 (by omega)).bind fun payloadLength _ => ?_
  refine (data.guarded_octet (by omega)).bind fun next _ => ?_
  exact .pure enough

/-- The ports lie within a transport header that was captured. -/
theorem Ports.guarded_read (data : Octets) (offset : Nat) {size : Nat} (room : 4 ≤ size) :
    Guarded data.size (read data offset size) fun _ => offset + size ≤ data.size := by
  refine (data.guarded_require offset (by omega)).bind fun _ enough => ?_
  refine (data.guarded_word16 (by omega)).bind fun source _ => ?_
  refine (data.guarded_word16 (by omega)).bind fun destination _ => ?_
  exact .pure enough

/-- The fixed part of a TCP header lies within the capture. -/
theorem TcpHeader.guarded_read (data : Octets) (offset : Nat) :
    Guarded data.size (read data offset) fun _ => offset + size ≤ data.size := by
  refine (Ports.guarded_read data offset (by decide)).bind fun ports enough => ?_
  have inside : offset + 20 ≤ data.size := enough
  refine (data.guarded_octet (by omega)).bind fun words _ => ?_
  exact .pure enough

/-- The fixed part of a GRE header lies within the capture. -/
theorem GreHeader.guarded_read (data : Octets) (offset : Nat) :
    Guarded data.size (read data offset) fun _ => offset + size ≤ data.size := by
  refine (data.guarded_require offset (by decide)).bind fun _ enough => ?_
  have inside : offset + 4 ≤ data.size := enough
  refine (data.guarded_word16 (by omega)).bind fun flags _ => ?_
  refine (data.guarded_word16 (by omega)).bind fun protocolType _ => ?_
  exact .pure enough

/-- The shared part of an ICMP header lies within the capture. -/
theorem IcmpHeader.guarded_read (data : Octets) (offset : Nat) :
    Guarded data.size (read data offset) fun _ => offset + size ≤ data.size := by
  refine (data.guarded_require offset (by decide)).bind fun _ enough => ?_
  have inside : offset + 4 ≤ data.size := enough
  refine (data.guarded_octet (by omega)).bind fun type _ => ?_
  refine (data.guarded_octet (by omega)).bind fun code _ => ?_
  exact .pure enough

/-- A VXLAN header lies within the capture. -/
theorem VxlanHeader.guarded_read (data : Octets) (offset : Nat) :
    Guarded data.size (read data offset) fun _ => offset + size ≤ data.size := by
  refine (data.guarded_require offset (by decide)).bind fun _ enough => ?_
  have inside : offset + 8 ≤ data.size := enough
  refine (data.guarded_octet (by omega)).bind fun flags _ => ?_
  refine (data.guarded_word24 (by omega)).bind fun networkId _ => ?_
  exact .pure enough

/-- The fixed part of a Geneve header lies within the capture. -/
theorem GeneveHeader.guarded_read (data : Octets) (offset : Nat) :
    Guarded data.size (read data offset) fun _ => offset + size ≤ data.size := by
  refine (data.guarded_require offset (by decide)).bind fun _ enough => ?_
  have inside : offset + 8 ≤ data.size := enough
  refine (data.guarded_octet (by omega)).bind fun first _ => ?_
  refine (data.guarded_octet (by omega)).bind fun flags _ => ?_
  refine (data.guarded_word16 (by omega)).bind fun protocolType _ => ?_
  refine (data.guarded_word24 (by omega)).bind fun networkId _ => ?_
  exact .pure enough

/-- The readable part of an ESP packet lies within the capture. -/
theorem EspHeader.guarded_read (data : Octets) (offset : Nat) :
    Guarded data.size (read data offset) fun _ => offset + size ≤ data.size := by
  refine (data.guarded_require offset (by decide)).bind fun _ enough => ?_
  have inside : offset + 8 ≤ data.size := enough
  refine (data.guarded_word32 (by omega)).bind fun index _ => ?_
  refine (data.guarded_word32 (by omega)).bind fun sequenceNumber _ => ?_
  exact .pure enough

/-! ## Lengths that headers tell -/

/-- An ARP packet passes the end of the capture by less than the overhang. -/
theorem ArpHeader.packetLength_le (header : ArpHeader) : header.packetLength ≤ overhang := by
  -- Two addresses of each kind, whose lengths are octets.
  have hardware := header.hardwareLength.toNat_lt
  have protocol := header.protocolLength.toNat_lt
  unfold packetLength size overhang
  omega

/-- A Geneve header passes the end of the capture by less than the overhang. -/
theorem GeneveHeader.headerLength_le (header : GeneveHeader) : header.headerLength ≤ overhang := by
  have units := header.optionUnits.toNat_lt
  unfold headerLength size overhang
  omega

/-- An extension header that was read starts within the capture and is no longer than the
overhang. -/
theorem ExtensionHeader.length_le_of_read? {data : Octets} {offset : Nat} {form : ExtensionForm}
    {header : ExtensionHeader} (h : read? data offset form = some header) :
    header.length ≤ overhang := by
  unfold read? at h
  split at h
  · next next units first second =>
    have units := units.toNat_lt
    rw [← Option.some.inj h, overhang]
    cases form with
    | fixed => exact (by decide : 8 ≤ 2048)
    | units8 =>
      dsimp only
      omega
  · cases h

/-- The tags of an Ethernet header lie within the capture. -/
theorem TaggedType.guarded_unwrap (data : Octets) {offset length : Nat} (etherType : EtherType)
    (inside : offset + length ≤ data.size) :
    Guarded data.size (unwrap data offset length etherType) fun tagged =>
      offset + tagged.length ≤ data.size := by
  -- Every tag that was unwrapped was captured, so the length never passes the end of the capture.
  fun_induction unwrap data offset length etherType with
  | case1 length etherType tag stop found =>
    have room : offset + (length + 2) ≤ data.size + overhang := by
      rw [overhang]
      omega
    exact (guarded_advance room).excused found
  | case2 length etherType tag inner found type captured ih =>
    have sum := eq_add_of_advance found
    have within := Octets.lt_size_of_word16? captured
    apply ih
    rw [EthernetHeader.tagSize]
    omega
  | case3 => exact inside
  | case4 => exact inside

/-- The tags of a header within the captured octets can be followed, and are behind it. -/
theorem TaggedType.exists_unwrap {data : Octets} {offset length : Nat} (etherType : EtherType)
    (inside : offset + length ≤ data.size) (roomy : data.size + overhang < offsetBound) :
    ∃ tagged, unwrap data offset length etherType = .ok tagged ∧ length ≤ tagged.length := by
  rw [overhang] at roomy
  fun_induction unwrap data offset length etherType with
  | case1 length etherType tag stop fault =>
    have sum : advance offset (length + 2) = .ok (offset + (length + 2)) := if_pos (by omega)
    rw [sum] at fault
    cases fault
  | case2 length etherType tag inner found type captured ih =>
    have sum := eq_add_of_advance found
    have within := Octets.lt_size_of_word16? captured
    obtain ⟨tagged, unwrapped, long⟩ := ih (by rw [EthernetHeader.tagSize]; omega)
    exact ⟨tagged, unwrapped, Nat.le_of_add_right_le long⟩
  | case3 | case4 => exact ⟨_, rfl, Nat.le_refl _⟩

end FrameSpans
