import FrameSpans.Proofs.Reading.Placement

/-!
# Readings of displaced octets

A reading depends on the octets from its start on and on how many there are, but not on where it
starts. So if octets are put in front of others (`Octets.Moved`), a level that is read behind them
gives the same reading with all positions moved (`Reading.read_moved`).

As for sound readings there is one lemma for each header. A reader gives the same fields
(`Ipv4Header.read_moved` and its like), a result that is a position is moved (`attempt_map`), and
the spans, marks and endings made of these are moved with it (`Reading.moveBy`).
-/

namespace FrameSpans

/-! ## Moved positions -/

/-- The span at a greater offset. -/
def Span.moveBy (distance : Nat) (span : Span) : Span :=
  { span with offset := span.offset + distance }

/-- The mark with its span at a greater offset. -/
def Mark.moveBy (distance : Nat) : Mark → Mark
  | .option span => .option (span.moveBy distance)
  | .fragment isLast => .fragment isLast

/-- The remark about a header at a greater offset. -/
def Remark.moveBy (distance : Nat) : Remark → Remark
  | .noIpVersion first offset => .noIpVersion first (offset + distance)
  | .ipv4HeaderLength length offset => .ipv4HeaderLength length (offset + distance)
  | .tcpHeaderLength length offset => .tcpHeaderLength length (offset + distance)
  | .icmpv6Type type offset => .icmpv6Type type (offset + distance)

/-- The step with what it finds at a greater offset. -/
def Step.moveBy (distance : Nat) : Step → Step
  | .header span => .header (span.moveBy distance)
  | .mark found => .mark (found.moveBy distance)
  | .chained base marks length =>
    .chained (base.moveBy distance) (marks.map (·.moveBy distance)) length
  | .framing type => .framing type
  | .payload protocol offset parent => .payload protocol (offset + distance) parent
  | .remark about => .remark (about.moveBy distance)

/-- The ending that leads to a greater offset. -/
def Ending.moveBy (distance : Nat) : Ending → Ending
  | .complete => .complete
  | .stopped stop => .stopped stop
  | .encapsulated entry offset => .encapsulated entry (offset + distance)
  | .consult id offset inquiry => .consult id (offset + distance) inquiry

/-- The reading with all that it finds at a greater offset. -/
def Reading.moveBy (distance : Nat) (reading : Reading) : Reading where
  steps := reading.steps.map (·.moveBy distance)
  ending := reading.ending.moveBy distance

/-- Octets are put in front of others: from the position `low` on, each octet stands `distance`
behind its old place, and the last positions behind them are still offsets. -/
structure Octets.Moved (distance low : Nat) (data moved : Octets) : Prop where
  /-- There are as many octets more. -/
  size_eq : moved.size = data.size + distance
  /-- From `low` on the octets are the same. -/
  getElem?_eq : ∀ offset : Nat, low ≤ offset → moved[offset + distance]? = data[offset]?
  /-- Positions a little behind the octets are offsets. -/
  roomy : moved.size + overhang < offsetBound

/-! ## Octets -/

namespace Octets.Moved

variable {distance low : Nat} {data moved : Octets} (h : Moved distance low data moved)

include h

/-- As many octets are captured behind a moved position. -/
theorem captured_eq (offset : Nat) : moved.captured (offset + distance) = data.captured offset := by
  have size := h.size_eq
  unfold captured
  omega

/-- As many octets can be required behind a moved position. -/
theorem require_eq (offset length : Nat) :
    moved.require (offset + distance) length = data.require offset length := by
  rw [require, h.captured_eq, require]

/-- A position is formed at a moved place, if it is not too far behind the octets. -/
theorem advance_eq {offset length : Nat} (near : offset + length ≤ data.size + overhang) :
    advance (offset + distance) length = (advance offset length).map (· + distance) := by
  have size := h.size_eq
  have roomy := h.roomy
  rw [advance, advance, if_pos (by omega), if_pos (by omega), Nat.add_right_comm]
  rfl

/-- The position behind a header is moved with it. -/
theorem behind_eq (offset : Nat) {length : Nat} (pos : 0 < length) :
    moved.behind (offset + distance) length = (data.behind offset length).map (· + distance) := by
  have checked := data.guarded_require offset pos
  unfold behind
  rw [h.require_eq]
  cases found : data.require offset length with
  | error stop => rfl
  | ok =>
    have enough : offset + length ≤ data.size := checked.value found
    exact h.advance_eq (by omega)

variable {offset : Nat} (behind : low ≤ offset)

include behind

/-- The octet at a moved position, if there is one. -/
theorem octet?_eq : moved.octet? (offset + distance) = data.octet? offset :=
  h.getElem?_eq offset behind

/-- The 16-bit field at a moved position, if there is one. -/
theorem word16?_eq : moved.word16? (offset + distance) = data.word16? offset := by
  unfold word16?
  rw [Nat.add_right_comm offset, h.getElem?_eq offset behind, h.getElem?_eq (offset + 1) (by omega)]

/-- The octet at a moved position. -/
theorem octet_eq : moved.octet (offset + distance) = data.octet offset := by
  rw [octet, h.getElem?_eq offset behind, octet]

/-- The 16-bit field at a moved position. -/
theorem word16_eq : moved.word16 (offset + distance) = data.word16 offset := by
  rw [word16, Nat.add_right_comm offset, h.octet_eq behind, h.octet_eq (by omega), word16]

/-- The 24-bit field at a moved position. -/
theorem word24_eq : moved.word24 (offset + distance) = data.word24 offset := by
  simp only [word24, Nat.add_right_comm offset distance, h.octet_eq behind,
    h.octet_eq (by omega : low ≤ offset + 1), h.octet_eq (by omega : low ≤ offset + 2)]

/-- The 32-bit field at a moved position. -/
theorem word32_eq : moved.word32 (offset + distance) = data.word32 offset := by
  simp only [word32, Nat.add_right_comm offset distance, h.octet_eq behind,
    h.octet_eq (by omega : low ≤ offset + 1), h.octet_eq (by omega : low ≤ offset + 2),
    h.octet_eq (by omega : low ≤ offset + 3)]

/-- The octets at a moved position. -/
theorem slice_eq (length : Nat) :
    moved.slice (offset + distance) length = data.slice offset length := by
  have octets : moved.extract (offset + distance) (offset + distance + length) =
      data.extract offset (offset + length) := by
    have size := h.size_eq
    apply Array.ext_getElem?
    intro i
    rw [Array.getElem?_extract, Array.getElem?_extract, Nat.add_right_comm offset distance i,
      h.getElem?_eq (offset + i) (by omega)]
    congr 1
    apply propext
    omega
  rw [slice, h.captured_eq, octets, slice]

end Octets.Moved

/-- Octets that are put in front of all others. -/
theorem Octets.moved_append {front data : Octets}
    (roomy : front.size + data.size + overhang < offsetBound) :
    Moved front.size 0 data (front ++ data) where
  size_eq := by rw [Array.size_append, Nat.add_comm]
  getElem?_eq offset _ := by
    rw [Array.getElem?_append_right (Nat.le_add_left _ _), Nat.add_sub_cancel]
  roomy := by
    rw [Array.size_append]
    exact roomy

/-! ## Headers -/

section Headers

variable {distance low : Nat} {data moved : Octets} (h : Octets.Moved distance low data moved)
  {offset : Nat} (behind : low ≤ offset)

include h behind

/-- The fields of an Ethernet header do not depend on where it stands. -/
theorem EthernetHeader.read_moved : read moved (offset + distance) = read data offset := by
  have later (n : Nat) : low ≤ offset + n := by omega
  simp only [read, h.require_eq, h.slice_eq, h.word16_eq, h.octet?_eq, h.word16?_eq, h.captured_eq,
    Nat.add_right_comm offset distance, behind, later]

/-- The fields of an ARP packet do not depend on where it stands. -/
theorem ArpHeader.read_moved : read moved (offset + distance) = read data offset := by
  have later (n : Nat) : low ≤ offset + n := by omega
  simp only [read, h.require_eq, h.octet_eq, h.word16_eq, Nat.add_right_comm offset distance,
    behind, later]

/-- The fields of an IPv4 header do not depend on where it stands. -/
theorem Ipv4Header.read_moved : read moved (offset + distance) = read data offset := by
  have later (n : Nat) : low ≤ offset + n := by omega
  simp only [read, h.require_eq, h.octet_eq, h.word16_eq, Nat.add_right_comm offset distance,
    behind, later]

/-- The fields of an IPv6 header do not depend on where it stands. -/
theorem Ipv6Header.read_moved : read moved (offset + distance) = read data offset := by
  have later (n : Nat) : low ≤ offset + n := by omega
  simp only [read, h.require_eq, h.octet_eq, h.word16_eq, Nat.add_right_comm offset distance,
    behind, later]

/-- The start of an extension header does not depend on where it stands. -/
theorem ExtensionHeader.read?_moved (form : ExtensionForm) :
    read? moved (offset + distance) form = read? data offset form := by
  have later (n : Nat) : low ≤ offset + n := by omega
  simp only [read?, h.octet?_eq, Nat.add_right_comm offset distance, behind, later]

/-- The fields of a fragment header do not depend on where it stands. -/
theorem FragmentFields.read?_moved : read? moved (offset + distance) = read? data offset := by
  rw [read?, Nat.add_right_comm, h.word16?_eq (by omega), read?]

/-- The ports do not depend on where their header stands. -/
theorem Ports.read_moved (size : Nat) :
    read moved (offset + distance) size = read data offset size := by
  have later (n : Nat) : low ≤ offset + n := by omega
  simp only [read, h.require_eq, h.word16_eq, Nat.add_right_comm offset distance, behind, later]

/-- The fields of a TCP header do not depend on where it stands. -/
theorem TcpHeader.read_moved : read moved (offset + distance) = read data offset := by
  have later (n : Nat) : low ≤ offset + n := by omega
  simp only [read, Ports.read_moved h behind, h.octet_eq, Nat.add_right_comm offset distance, later]

/-- The fields of a GRE header do not depend on where it stands. -/
theorem GreHeader.read_moved : read moved (offset + distance) = read data offset := by
  have later (n : Nat) : low ≤ offset + n := by omega
  simp only [read, h.require_eq, h.word16_eq, Nat.add_right_comm offset distance, behind, later]

/-- The fields of an ICMP header do not depend on where it stands. -/
theorem IcmpHeader.read_moved : read moved (offset + distance) = read data offset := by
  have later (n : Nat) : low ≤ offset + n := by omega
  simp only [read, h.require_eq, h.octet_eq, h.captured_eq, Nat.add_right_comm offset distance,
    behind, later]

/-- The fields of a VXLAN header do not depend on where it stands. -/
theorem VxlanHeader.read_moved : read moved (offset + distance) = read data offset := by
  have later (n : Nat) : low ≤ offset + n := by omega
  simp only [read, h.require_eq, h.octet_eq, h.word24_eq, Nat.add_right_comm offset distance,
    behind, later]

/-- The fields of a Geneve header do not depend on where it stands. -/
theorem GeneveHeader.read_moved : read moved (offset + distance) = read data offset := by
  have later (n : Nat) : low ≤ offset + n := by omega
  simp only [read, h.require_eq, h.octet_eq, h.word16_eq, h.word24_eq,
    Nat.add_right_comm offset distance, behind, later]

/-- The fields of an ESP packet do not depend on where it stands. -/
theorem EspHeader.read_moved : read moved (offset + distance) = read data offset := by
  have later (n : Nat) : low ≤ offset + n := by omega
  simp only [read, h.require_eq, h.word32_eq, Nat.add_right_comm offset distance, behind, later]

end Headers

/-! ## Options, tags and chains -/

/-- The scan of options without the proofs that it ends. -/
theorem HeaderOption.scan_eq (data : Octets) (offset stop : Nat) :
    scan data offset stop =
      if offset < stop then
        match data.octet? offset with
        | none => .ok []
        | some kind =>
          match length? data offset kind with
          | .error stopped => .error stopped
          | .ok none => .ok []
          | .ok (some length) =>
            match advance offset length with
            | .error stopped => .error stopped
            | .ok next =>
              if stop < next then .ok []
              else (scan data next stop).map (⟨kind, offset, length⟩ :: ·)
      else .ok [] := by
  rw [scan]
  congr 1
  cases data.octet? offset with
  | none => rfl
  | some kind =>
    dsimp only
    cases length? data offset kind with
    | error stopped => rfl
    | ok length =>
      cases length with
      | none => rfl
      | some length =>
        dsimp only
        cases advance offset length with
        | error stopped => rfl
        | ok next =>
          dsimp only
          congr 1
          cases scan data next stop <;> rfl

/-- Following tags without the proofs that it ends. -/
theorem TaggedType.unwrap_eq (data : Octets) (offset length : Nat) (etherType : EtherType) :
    unwrap data offset length etherType =
      if etherType.isTag then
        match advance offset (length + 2) with
        | .error stop => .error stop
        | .ok inner =>
          match data.word16? inner with
          | some type => unwrap data offset (length + EthernetHeader.tagSize) (.ofValue type)
          | none => .ok ⟨etherType, length, false⟩
      else .ok ⟨etherType, length, true⟩ := by
  rw [unwrap]
  congr 1
  cases advance offset (length + 2) with
  | error stop => rfl
  | ok inner =>
    dsimp only
    cases data.word16? inner <;> rfl

/-- The option at a greater offset. -/
def HeaderOption.moveBy (distance : Nat) (option : HeaderOption) : HeaderOption :=
  { option with offset := option.offset + distance }

/-- The mark of a TCP option is moved with it. -/
theorem HeaderOption.tcpMark?_moveBy (distance : Nat) (option : HeaderOption) :
    (option.moveBy distance).tcpMark? = option.tcpMark?.map (·.moveBy distance) := by
  unfold tcpMark?
  rw [Option.map_map]
  rfl

section Runs

variable {distance low : Nat} {data moved : Octets} (h : Octets.Moved distance low data moved)

include h

/-- The length of an option does not depend on where it stands. -/
theorem HeaderOption.length?_moved {offset : Nat} (behind : low ≤ offset)
    (inside : offset < data.size) (kind : UInt8) :
    length? moved (offset + distance) kind = length? data offset kind := by
  have size := h.size_eq
  have roomy := h.roomy
  have second : advance offset 1 = .ok (offset + 1) := if_pos (by omega)
  unfold length?
  rw [h.advance_eq (by rw [overhang]; omega), second]
  simp only [Except.map, h.octet?_eq (by omega : low ≤ offset + 1)]

/-- Options are moved with their header. -/
theorem HeaderOption.scan_moved {offset stop : Nat} (behind : low ≤ offset)
    (inside : stop ≤ data.size) :
    scan moved (offset + distance) (stop + distance) =
      (scan data offset stop).map (List.map (·.moveBy distance)) := by
  rw [scan_eq moved, scan_eq data, h.octet?_eq behind]
  by_cases before : offset < stop
  · rw [if_pos (by omega), if_pos before]
    cases captured : data.octet? offset with
    | none => rfl
    | some kind =>
      have here : offset < data.size := Nat.lt_of_lt_of_le before inside
      dsimp only
      rw [length?_moved h behind here]
      cases told : length? data offset kind with
      | error stopped => rfl
      | ok length =>
        cases length with
        | none => rfl
        | some length =>
          have bound := (guarded_length? data kind here).value told length rfl
          dsimp only
          rw [h.advance_eq (by omega)]
          cases sum : advance offset length with
          | error stopped => rfl
          | ok next =>
            dsimp only [Except.map]
            by_cases beyond : stop < next
            · rw [if_pos (by omega), if_pos beyond]
              rfl
            · -- An option has at least one octet, so fewer are left behind it.
              have pos := pos_of_length? told
              obtain rfl := eq_add_of_advance sum
              have later : low ≤ offset + length := by omega
              have rest := scan_moved later inside
              rw [if_neg (by omega), if_neg beyond, rest]
              cases scan data (offset + length) stop <;> rfl
  · rw [if_neg (by omega), if_neg before]
    rfl
termination_by stop - offset

/-- Tags are followed alike in moved octets; `tags` of the octets in front may be counted as part of
the header. -/
theorem TaggedType.unwrap_moved {offset offset' length tags : Nat} (etherType : EtherType)
    (start : offset' + tags = offset + distance) (behind : low ≤ offset + length)
    (inside : offset + length ≤ data.size) :
    unwrap moved offset' (length + tags) etherType =
      (unwrap data offset length etherType).map fun tagged =>
        { tagged with length := tagged.length + tags } := by
  have size := h.size_eq
  have roomy := h.roomy
  rw [overhang] at roomy
  fun_induction unwrap data offset length etherType with
  | case1 length etherType tag stop found =>
    -- The type field of a tag is never too far behind the octets to be looked for.
    have sum : advance offset (length + 2) = .ok (offset + (length + 2)) := if_pos (by omega)
    rw [sum] at found
    cases found
  | case2 length etherType tag inner found type captured ih =>
    obtain rfl := eq_add_of_advance found
    have within := Octets.lt_size_of_word16? captured
    have sum : advance offset' (length + tags + 2) = .ok (offset + (length + 2) + distance) := by
      rw [advance, if_pos (by omega)]
      congr 1
      omega
    have rest := ih (by omega) (by rw [EthernetHeader.tagSize]; omega)
    rw [unwrap_eq, if_pos tag, sum]
    dsimp only
    rw [h.word16?_eq (by omega), captured]
    dsimp only
    rw [Nat.add_right_comm]
    exact rest
  | case3 length etherType tag inner found uncaptured =>
    obtain rfl := eq_add_of_advance found
    have sum : advance offset' (length + tags + 2) = .ok (offset + (length + 2) + distance) := by
      rw [advance, if_pos (by omega)]
      congr 1
      omega
    rw [unwrap_eq, if_pos tag, sum]
    dsimp only
    rw [h.word16?_eq (by omega), uncaptured]
    rfl
  | case4 length etherType payload =>
    rw [unwrap_eq, if_neg payload]
    rfl

namespace Chain

/-- The chain with all that was found in it at greater offsets. -/
def moveBy (distance : Nat) (chain : Chain) : Chain :=
  { chain with marks := chain.marks.map (·.moveBy distance) }

/-- What an extension header leaves is moved with it. -/
theorem marksOf_moved {offset : Nat} (behind : low ≤ offset) (type : IpProtocol)
    (form : ExtensionForm) (length : Nat) :
    marksOf moved (offset + distance) type form length =
      (marksOf data offset type form length).map (·.moveBy distance) := by
  unfold marksOf
  rw [FragmentFields.read?_moved h behind]
  split <;> split <;> rfl

/-- Whether a fragment is the first one does not depend on where its header stands. -/
theorem isFirstBehind_moved {offset : Nat} (behind : low ≤ offset) (form : ExtensionForm)
    (isFirst : Bool) :
    isFirstBehind moved (offset + distance) form isFirst =
      isFirstBehind data offset form isFirst := by
  unfold isFirstBehind
  rw [FragmentFields.read?_moved h behind]

/-- A chain is moved with its header. -/
theorem follow_moved {start length : Nat} (behind : low ≤ start) (next : IpProtocol)
    (isFirst : Bool) (near : start + length ≤ data.size + overhang) :
    follow moved (start + distance) next length isFirst =
      (follow data start next length isFirst).map (·.moveBy distance) := by
  have size := h.size_eq
  have roomy := h.roomy
  have place (length : Nat) : start + distance + length = start + length + distance :=
    Nat.add_right_comm start distance length
  fun_induction follow data start next length isFirst with
  | case1 next length isFirst upper =>
    have ends : Ends moved (start + distance + length) next := by
      intro form extension
      rw [upper] at extension
      cases extension
    rw [follow_of_ends isFirst (by omega) ends, upper]
    rfl
  | case2 next length isFirst form extension stop fault =>
    have sum : advance start length = .ok (start + length) := if_pos (by omega)
    rw [sum] at fault
    cases fault
  | case3 next length isFirst form extension offset sum uncaptured =>
    obtain rfl := eq_add_of_advance sum
    have ends : Ends moved (start + distance + length) next := by
      intro other same
      rw [extension] at same
      cases same
      rw [place, ExtensionHeader.read?_moved h (by omega)]
      exact uncaptured
    rw [follow_of_ends isFirst (by omega) ends, extension]
    rfl
  | case4 next length isFirst form extension offset sum header read stop fault ih =>
    -- The header starts within the octets, so its end is still near them.
    obtain rfl := eq_add_of_advance sum
    have inside := (ExtensionHeader.lt_size_of_read? read).1
    have bound := ExtensionHeader.length_le_of_read? read
    rw [← ExtensionHeader.read?_moved h (by omega), ← place] at read
    rw [follow_of_read isFirst extension (by omega) read, place, isFirstBehind_moved h (by omega),
      ih (by omega), fault]
    rfl
  | case5 next length isFirst form extension offset sum header read rest found ih =>
    obtain rfl := eq_add_of_advance sum
    have inside := (ExtensionHeader.lt_size_of_read? read).1
    have bound := ExtensionHeader.length_le_of_read? read
    rw [← ExtensionHeader.read?_moved h (by omega), ← place] at read
    rw [follow_of_read isFirst extension (by omega) read, place, isFirstBehind_moved h (by omega),
      marksOf_moved h (by omega), ih (by omega), found]
    simp only [Except.map, moveBy, List.map_append]

end Chain

end Runs

/-! ## Levels -/

namespace Reading

variable {distance : Nat}

/-- Steps in front of a reading are moved with it. -/
theorem moveBy_after (steps : List Step) (rest : Reading) :
    (after steps rest).moveBy distance =
      after (steps.map (·.moveBy distance)) (rest.moveBy distance) := by
  simp only [after, moveBy, List.map_append]

/-- A reading that goes on with a result is moved if what follows is. -/
theorem attempt_same {α : Type} {result : Except Stop α} {next next' : α → Reading}
    (rest : ∀ value, result = .ok value → next' value = (next value).moveBy distance) :
    attempt result next' = (attempt result next).moveBy distance := by
  cases result with
  | error stop => rfl
  | ok value => exact rest value rfl

/-- A reading that goes on with a result that is moved is moved if what follows is. -/
theorem attempt_map {α : Type} {move : α → α} {result : Except Stop α} {next next' : α → Reading}
    (rest : ∀ value, result = .ok value → next' (move value) = (next value).moveBy distance) :
    attempt (result.map move) next' = (attempt result next).moveBy distance := by
  cases result with
  | error stop => rfl
  | ok value => exact rest value rfl

variable {low : Nat} {data moved : Octets} (h : Octets.Moved distance low data moved)

include h

/-- An SCTP header. -/
theorem sctp_moved (offset : Nat) :
    sctp moved (offset + distance) = (sctp data offset).moveBy distance := by
  unfold sctp
  rw [h.require_eq]
  exact attempt_same fun _ _ => rfl

/-- An IPX header. -/
theorem ipx_moved (offset : Nat) :
    ipx moved (offset + distance) = (ipx data offset).moveBy distance := by
  unfold ipx
  rw [h.require_eq]
  exact attempt_same fun _ _ => rfl

/-- An ICMPv4 header. -/
theorem icmpv4_moved (offset : Nat) :
    icmpv4 moved (offset + distance) = (icmpv4 data offset).moveBy distance := by
  unfold icmpv4
  rw [h.require_eq]
  exact attempt_same fun _ _ => rfl

section Header

variable {offset : Nat} (behind : low ≤ offset)

include behind

/-- A TCP header. -/
theorem tcp_moved : tcp moved (offset + distance) = (tcp data offset).moveBy distance := by
  unfold tcp
  rw [TcpHeader.read_moved h behind]
  refine attempt_same fun header read => ?_
  by_cases short : header.headerLength < TcpHeader.size
  · rw [if_pos short, if_pos short]
    rfl
  · have pos : 0 < header.headerLength := by
      have size : TcpHeader.size = 20 := rfl
      omega
    rw [if_neg short, if_neg short, h.behind_eq offset pos]
    refine attempt_map fun payload passed => ?_
    obtain ⟨sum, inside⟩ := (data.guarded_behind offset pos).value passed
    rw [← sum] at inside
    rw [Nat.add_right_comm offset distance TcpHeader.size,
      HeaderOption.scan_moved h (by omega) inside]
    refine attempt_map fun options scanned => ?_
    have marks : (options.map (·.moveBy distance)).filterMap HeaderOption.tcpMark? =
        (options.filterMap HeaderOption.tcpMark?).map (·.moveBy distance) := by
      rw [List.filterMap_map, List.map_filterMap]
      exact congrArg (List.filterMap · options) (funext (HeaderOption.tcpMark?_moveBy distance))
    rw [moveBy_after, marks, List.map_cons, List.map_map, List.map_map]
    rfl

/-- A UDP header. -/
theorem udp_moved : udp moved (offset + distance) = (udp data offset).moveBy distance := by
  unfold udp
  rw [Ports.read_moved h behind]
  refine attempt_same fun ports read => ?_
  have inside := (Ports.guarded_read data offset (by decide)).value read
  rw [h.advance_eq (Nat.le_add_right_of_le inside)]
  exact attempt_map fun payload sum => rfl

/-- An ICMPv6 message. -/
theorem icmpv6_moved : icmpv6 moved (offset + distance) = (icmpv6 data offset).moveBy distance := by
  unfold icmpv6
  rw [IcmpHeader.read_moved h behind]
  refine attempt_same fun header read => ?_
  dsimp only
  split
  · rfl
  · rw [h.require_eq]
    exact attempt_same fun _ _ => rfl
  · next length layout =>
    rw [h.behind_eq offset (Icmpv6Type.pos_of_layout? (.inr layout))]
    exact attempt_map fun _ _ => rfl

/-- A GRE header. -/
theorem gre_moved : gre moved (offset + distance) = (gre data offset).moveBy distance := by
  unfold gre
  rw [GreHeader.read_moved h behind]
  refine attempt_same fun header read => ?_
  have pos : 0 < header.headerLength := Nat.succ_pos _
  rw [h.behind_eq offset pos]
  exact attempt_map fun _ _ => rfl

/-- The header behind an IP header. -/
theorem ipPayload_moved (protocol : IpProtocol) (parent : ProtocolId) :
    ipPayload moved (offset + distance) protocol parent =
      (ipPayload data offset protocol parent).moveBy distance := by
  unfold ipPayload
  rw [moveBy_after]
  refine congrArg (after _) ?_
  cases protocol with
  | tcp => exact tcp_moved h behind
  | udp => exact udp_moved h behind
  | icmp => exact icmpv4_moved h offset
  | icmpv6 => exact icmpv6_moved h behind
  | gre => exact gre_moved h behind
  | sctp => exact sctp_moved h offset
  | ipxInIp => exact ipx_moved h offset
  | _ => rfl

/-- An IPv4 header. -/
theorem ipv4_moved : ipv4 moved (offset + distance) = (ipv4 data offset).moveBy distance := by
  unfold ipv4
  rw [Ipv4Header.read_moved h behind]
  refine attempt_same fun header read => ?_
  by_cases short : header.headerLength < Ipv4Header.size
  · rw [if_pos short, if_pos short]
    rfl
  · have pos : 0 < header.headerLength := by
      have size : Ipv4Header.size = 20 := rfl
      omega
    rw [if_neg short, if_neg short, h.behind_eq offset pos]
    refine attempt_map fun payload passed => ?_
    obtain ⟨sum, inside⟩ := (data.guarded_behind offset pos).value passed
    rw [← sum] at inside
    rw [Nat.add_right_comm offset distance Ipv4Header.size,
      HeaderOption.scan_moved h (by omega) inside]
    refine attempt_map fun options scanned => ?_
    rw [moveBy_after, moveBy_after, List.map_cons, List.map_map, List.map_map]
    have flags :
        (if header.isFragment then [Step.mark (.fragment !header.moreFragments)] else []).map
          (·.moveBy distance) =
          if header.isFragment then [.mark (.fragment !header.moreFragments)] else [] := by
      split <;> rfl
    rw [flags]
    refine congrArg (after _) (congrArg (after _) ?_)
    by_cases later : header.fragmentOffset ≠ 0
    · rw [if_pos later, if_pos later]
      rfl
    · rw [if_neg later, if_neg later]
      exact ipPayload_moved h (by omega) header.protocol .ipv4

/-- An IPv6 header. -/
theorem ipv6_moved : ipv6 moved (offset + distance) = (ipv6 data offset).moveBy distance := by
  unfold ipv6
  rw [Ipv6Header.read_moved h behind]
  refine attempt_same fun header read => ?_
  have inside := (Ipv6Header.guarded_read data offset).value read
  rw [h.advance_eq (Nat.le_add_right_of_le inside)]
  refine attempt_map fun start sum => ?_
  obtain rfl := eq_add_of_advance sum
  have near : offset + Ipv6Header.size + 0 ≤ data.size + overhang := Nat.le_add_right_of_le inside
  unfold Chain.read
  rw [Chain.follow_moved h (by omega) header.nextHeader true near]
  refine attempt_map fun chain found => ?_
  obtain ⟨ends, -⟩ := (Chain.guarded_follow data header.nextHeader true near).value found
  obtain ⟨next, length, marks, isFirst, complete⟩ := chain
  dsimp only [Chain.moveBy] at ends ⊢
  rw [h.advance_eq ends]
  refine attempt_map fun payload sum => ?_
  obtain rfl := eq_add_of_advance sum
  rw [moveBy_after]
  refine congrArg (after _) ?_
  cases complete
  · rfl
  · cases isFirst
    · rfl
    · exact ipPayload_moved h (by omega) next .ipv6

/-- An IP header of either version. -/
theorem ip_moved : ip moved (offset + distance) = (ip data offset).moveBy distance := by
  unfold ip
  rw [h.octet?_eq behind]
  split
  · rfl
  · split
    · exact ipv4_moved h behind
    · exact ipv6_moved h behind
    · rfl

/-- An ARP packet. -/
theorem arp_moved : arp moved (offset + distance) = (arp data offset).moveBy distance := by
  unfold arp
  rw [ArpHeader.read_moved h behind]
  exact attempt_same fun _ _ => rfl

/-- The payload of a link layer or GRE header. -/
theorem etherType_moved (type : EtherType) :
    etherType type moved (offset + distance) = (etherType type data offset).moveBy distance := by
  cases type with
  | ipv4 => exact ipv4_moved h behind
  | ipv6 => exact ipv6_moved h behind
  | arp => exact arp_moved h behind
  | rarp => exact arp_moved h behind
  | ipx => exact ipx_moved h offset
  | _ => rfl

/-- A SNAP header behind an LLC header. -/
theorem snap_moved (inside : offset ≤ data.size) :
    snap moved (offset + distance) = (snap data offset).moveBy distance := by
  have typeAt : offset + snapTypeAt ≤ data.size + overhang := Nat.add_le_add inside (by decide)
  have near : offset + snapSize ≤ data.size + overhang := Nat.add_le_add inside (by decide)
  unfold snap
  rw [h.advance_eq typeAt]
  refine attempt_map fun typeAt sum => ?_
  obtain rfl := eq_add_of_advance sum
  rw [h.advance_eq near]
  refine attempt_map fun payload sum => ?_
  obtain rfl := eq_add_of_advance sum
  rw [h.word16?_eq (by omega)]
  split
  · rfl
  · rw [moveBy_after, etherType_moved h (by omega)]
    rfl

/-- What follows the Ethernet header of an 802.3 frame. -/
theorem ieee8023_moved (header : EthernetHeader) :
    ieee8023 moved (offset + distance) header = (ieee8023 data offset header).moveBy distance := by
  unfold ieee8023
  by_cases raw : header.isNovellRaw
  · rw [if_pos raw, if_pos raw, moveBy_after, ipx_moved h]
    rfl
  · rw [if_neg raw, if_neg raw, h.behind_eq offset (by decide)]
    refine attempt_map fun behind passed => ?_
    obtain ⟨sum, inside⟩ := (data.guarded_behind offset (by decide)).value passed
    rw [← sum] at inside
    split
    · rfl
    · next dsap ssap points =>
      rw [moveBy_after]
      refine congrArg (after _) ?_
      by_cases isSnap : dsap = sapSnap ∧ ssap = sapSnap
      · rw [if_pos isSnap, if_pos isSnap]
        exact snap_moved h (by omega) inside
      · rw [if_neg isSnap, if_neg isSnap]
        by_cases isIpx : dsap = sapIpx
        · rw [if_pos isIpx, if_pos isIpx]
          exact ipx_moved h behind
        · rw [if_neg isIpx, if_neg isIpx]
          rfl

end Header

/-- What follows an Ethernet header, some of whose tags may be octets in front. -/
theorem behindTags_moved {offset offset' tags : Nat} (start : offset' + tags = offset + distance)
    (tagged : TaggedType) (behind : low ≤ offset + tagged.length)
    (ends : offset + tagged.length ≤ data.size) :
    behindTags { tagged with length := tagged.length + tags } moved offset' =
      (behindTags tagged data offset).moveBy distance := by
  have size := h.size_eq
  have roomy := h.roomy
  have sum : advance offset tagged.length = .ok (offset + tagged.length) := if_pos (by omega)
  have sum' : advance offset' (tagged.length + tags) = .ok (offset + tagged.length + distance) := by
    rw [advance, if_pos (by omega)]
    congr 1
    omega
  unfold behindTags
  by_cases complete : tagged.complete
  · rw [if_pos complete, if_pos complete, sum, sum', attempt_ok, attempt_ok]
    exact etherType_moved h behind tagged.etherType
  · rw [if_neg complete, if_neg complete]
    rfl

/-- An Ethernet frame. -/
theorem ethernet_moved {offset : Nat} (behind : low ≤ offset) :
    ethernet moved (offset + distance) = (ethernet data offset).moveBy distance := by
  unfold ethernet
  rw [EthernetHeader.read_moved h behind]
  refine attempt_same fun header read => ?_
  have fixed := (EthernetHeader.guarded_read data offset).value read
  by_cases is8023 : header.is8023
  · rw [if_pos is8023, if_pos is8023, h.advance_eq (Nat.le_add_right_of_le fixed)]
    refine attempt_map fun behind sum => ?_
    obtain rfl := eq_add_of_advance sum
    rw [moveBy_after, ieee8023_moved h (by omega)]
    rfl
  · -- The tags are moved with the header, so none of the octets in front are part of it.
    have unwrapped := TaggedType.unwrap_moved h (.ofValue header.typeOrLength) (Nat.add_zero _)
      (by omega) fixed
    rw [if_neg is8023, if_neg is8023, ← Nat.add_zero EthernetHeader.size, unwrapped]
    refine attempt_map fun tagged found => ?_
    have ends := (TaggedType.guarded_unwrap data _ fixed).value found
    rw [moveBy_after]
    exact congrArg (after _) (behindTags_moved h (Nat.add_zero _) tagged (by omega) ends)

/-- The reading of a level is moved with its start. -/
theorem read_moved (entry : Entry) {offset : Nat} (behind : low ≤ offset) :
    read entry moved (offset + distance) = (read entry data offset).moveBy distance := by
  cases entry with
  | ethernet => exact ethernet_moved h behind
  | etherType type => exact etherType_moved h behind type
  | ip => exact ip_moved h behind
  | ipv4 => exact ipv4_moved h behind
  | ipv6 => exact ipv6_moved h behind

end Reading

end FrameSpans
