import FrameSpans.Proofs.Dissector.Displacement
import FrameSpans.Proofs.Reading.Captured

/-!
# VLAN tags

Tags behind the source address of an Ethernet II frame make its Ethernet header longer and move all
that follows. `TaggedType.unwrap_tags` follows tags to the type field behind the last of them, so
the tagged frame and the frame without tags are dissected alike from there on (`vlan_transparency`).

An 802.3 frame has a length in its type field. A tag in front of it hides this: the length is taken
for an ethertype that has no meaning, and behind the Ethernet header nothing is found
(`tagged_llc_unread`).
-/

namespace FrameSpans

/-- A VLAN tag: the type that announces it, and its two octets of control information. -/
structure VlanTag where
  /-- The type field in front of the control information. -/
  type : EtherType
  /-- The type announces a tag. -/
  isTag : type.isTag = true
  /-- The first octet of control information. -/
  high : UInt8
  /-- The second octet of control information. -/
  low : UInt8

/-- The octets of a tag. -/
def VlanTag.octets (tag : VlanTag) : List UInt8 :=
  [(tag.type.value >>> 8).toUInt8, tag.type.value.toUInt8, tag.high, tag.low]

/-- The position of the type field of an Ethernet header, behind the two addresses. -/
def EthernetHeader.typeAt : Nat := 12

/-- The frame with tags behind its source address. -/
def Octets.tagged (frame : Octets) (tags : List VlanTag) : Octets :=
  (frame.toList.take EthernetHeader.typeAt ++
    (tags.flatMap VlanTag.octets ++ frame.toList.drop EthernetHeader.typeAt)).toArray

/-! ## Types -/

/-- Two types announce a tag. -/
theorem EtherType.eq_of_isTag {type : EtherType} (h : type.isTag = true) :
    type = .vlan ∨ type = .qinq := by
  cases type with
  | vlan => exact .inl rfl
  | qinq => exact .inr rfl
  | _ => cases h

/-- The type field of a tag is the type that announces it. -/
theorem VlanTag.ofValue_type (tag : VlanTag) : EtherType.ofValue tag.type.value = tag.type := by
  rcases EtherType.eq_of_isTag tag.isTag with type | type <;> rw [type] <;> rfl

/-- The type field of a tag is no length. -/
theorem VlanTag.not_length (tag : VlanTag) : ¬tag.type.value ≤ 1500 := by
  rcases EtherType.eq_of_isTag tag.isTag with type | type <;> rw [type] <;> decide

/-- The first two octets of a tag are its type field. -/
theorem VlanTag.word16_octets (tag : VlanTag) :
    word16 (tag.type.value >>> 8).toUInt8 tag.type.value.toUInt8 = tag.type.value := by
  rcases EtherType.eq_of_isTag tag.isTag with type | type <;> rw [type] <;> decide

/-- A length has no meaning as an ethertype. -/
theorem EtherType.ofValue_of_le {value : UInt16} (h : value ≤ 1500) :
    ofValue value = .unknown value := by
  unfold ofValue
  split
  all_goals first
    | rfl
    | exact absurd h (by decide)

/-! ## Tagged frames -/

/-- Each tag has four octets. -/
theorem VlanTag.length_flatMap_octets (tags : List VlanTag) :
    (tags.flatMap octets).length = 4 * tags.length := by
  induction tags with
  | nil => rfl
  | cons tag rest ih =>
    rw [List.flatMap_cons, List.length_append, ih, List.length_cons, octets]
    show 4 + 4 * rest.length = _
    omega

namespace Octets

/-- The field behind the first octets. -/
theorem word16?_of_toList {data : Octets} {front rest : List UInt8} {b1 b0 : UInt8}
    (parts : data.toList = front ++ b1 :: b0 :: rest) :
    data.word16? front.length = some (FrameSpans.word16 b1 b0) := by
  have octet (offset : Nat) : data[front.length + offset]? = (b1 :: b0 :: rest)[offset]? := by
    rw [← Array.getElem?_toList, parts, List.getElem?_append_right (Nat.le_add_right _ _),
      Nat.add_sub_cancel_left]
  have first : data[front.length]? = some b1 := octet 0
  have second : data[front.length + 1]? = some b0 := octet 1
  rw [word16?, first, second]

/-- The octets of a tagged frame: those of its addresses, the tags, and all others. -/
theorem toList_tagged (frame : Octets) (tags : List VlanTag) :
    (frame.tagged tags).toList = frame.toList.take EthernetHeader.typeAt ++
      (tags.flatMap VlanTag.octets ++ frame.toList.drop EthernetHeader.typeAt) :=
  rfl

variable {frame : Octets} (addressed : EthernetHeader.typeAt ≤ frame.size) (tags : List VlanTag)

include addressed

/-- The addresses are in front of the tags. -/
theorem length_addresses :
    (frame.toList.take EthernetHeader.typeAt).length = EthernetHeader.typeAt :=
  List.length_take_of_le addressed

/-- Each tag makes the frame four octets longer. -/
theorem size_tagged : (frame.tagged tags).size = frame.size + 4 * tags.length := by
  have whole : frame.toList.length = frame.size := Array.length_toList
  have length : (frame.tagged tags).toList.length = frame.toList.length + 4 * tags.length := by
    rw [toList_tagged, List.length_append, List.length_append, length_addresses addressed,
      VlanTag.length_flatMap_octets, List.length_drop, whole]
    omega
  exact length

/-- From the type field on, the octets of a frame are moved behind the tags. -/
theorem moved_tagged (roomy : (frame.tagged tags).size + overhang < offsetBound) :
    Moved (4 * tags.length) EthernetHeader.typeAt frame (frame.tagged tags) where
  size_eq := size_tagged addressed tags
  getElem?_eq offset behind := by
    have addresses := length_addresses addressed
    have octets := VlanTag.length_flatMap_octets tags
    rw [← Array.getElem?_toList, toList_tagged, List.getElem?_append_right (by omega),
      List.getElem?_append_right (by omega), addresses, octets, List.getElem?_drop,
      Array.getElem?_toList]
    congr 1
    omega
  roomy := roomy

end Octets

/-! ## Following tags -/

/-- Tags are followed to the type field behind the last of them. -/
theorem TaggedType.unwrap_tags {data : Octets} {front rest : List UInt8} {type inner : UInt16}
    (tags : List VlanTag) (parts : data.toList = front ++ (tags.flatMap VlanTag.octets ++ rest))
    (roomy : data.size + overhang < offsetBound) (here : data.word16? front.length = some type)
    (last : data.word16? (front.length + 4 * tags.length) = some inner) :
    unwrap data 0 (front.length + 2) (.ofValue type) =
      unwrap data 0 (front.length + 2 + 4 * tags.length) (.ofValue inner) := by
  -- Induction on the tags: those that were followed are octets in front of the others.
  induction tags generalizing front type with
  | nil =>
    cases here.symm.trans last
    rfl
  | cons tag tags ih =>
    have type_eq : type = tag.type.value := by
      have field := Octets.word16?_of_toList parts
      rw [here, tag.word16_octets] at field
      exact Option.some.inj field
    have length : (front ++ tag.octets).length = front.length + 4 := List.length_append
    have within := Octets.lt_size_of_word16? last
    rw [List.length_cons] at within last ⊢
    obtain ⟨next, found⟩ :=
      Octets.exists_word16? (by omega : front.length + 4 + 1 < data.size)
    have sum : advance 0 (front.length + 2 + 2) = .ok (front.length + 4) := by
      rw [advance, if_pos (by omega), Nat.zero_add]
    have parts' : data.toList =
        (front ++ tag.octets) ++ (tags.flatMap VlanTag.octets ++ rest) := by
      rw [parts, List.flatMap_cons, List.append_assoc, List.append_assoc]
    rw [← length] at found
    have last' : data.word16? ((front ++ tag.octets).length + 4 * tags.length) = some inner := by
      rw [length, ← last]
      congr 1
      omega
    have followed := ih parts' found last'
    rw [length] at found followed
    rw [type_eq, tag.ofValue_type, unwrap_eq, if_pos tag.isTag, sum]
    dsimp only
    rw [found]
    dsimp only
    rw [EthernetHeader.tagSize, Nat.add_right_comm front.length 2 4, followed]
    congr 1
    omega

/-! ## Ethernet headers -/

/-- The addresses of a frame with a type field were captured. -/
theorem EthernetHeader.typeAt_le {data : Octets} {type : UInt16}
    (field : data.word16? typeAt = some type) : typeAt ≤ data.size :=
  Nat.le_of_lt (Nat.lt_of_succ_lt (Octets.lt_size_of_word16? field))

namespace Reading

section Tags

variable {frame : Octets} {type : UInt16}
  (field : frame.word16? EthernetHeader.typeAt = some type) {tags : List VlanTag}
  (roomy : (frame.tagged tags).size + overhang < offsetBound)

include field roomy

/-- A tagged frame is read like a frame with a longer header. Its own type field may be a length, if
there is a tag in front of it. -/
theorem ethernet_of_tags (hidden : tags = [] → ¬type ≤ 1500) :
    ethernet (frame.tagged tags) 0 =
      attempt (TaggedType.unwrap (frame.tagged tags) 0 (EthernetHeader.size + 4 * tags.length)
        (.ofValue type)) fun tagged =>
          after [.header ⟨.ethernet, 0, tagged.length⟩]
            (behindTags tagged (frame.tagged tags) 0) := by
  have addressed := EthernetHeader.typeAt_le field
  have addresses := Octets.length_addresses addressed
  have inner : (frame.tagged tags).word16? (EthernetHeader.typeAt + 4 * tags.length) = some type :=
    ((Octets.moved_tagged addressed tags roomy).word16?_eq (Nat.le_refl _)).trans field
  -- The type field that is read first is that of the first tag, or of the frame if there is none.
  obtain ⟨outer, found, ethertype⟩ : ∃ outer,
      (frame.tagged tags).word16? EthernetHeader.typeAt = some outer ∧ ¬outer ≤ 1500 := by
    cases tags with
    | nil => exact ⟨type, inner, hidden rfl⟩
    | cons tag rest =>
      have first := Octets.word16?_of_toList (frame.toList_tagged (tag :: rest))
      rw [addresses, tag.word16_octets] at first
      exact ⟨_, first, tag.not_length⟩
  rw [← addresses] at inner found
  have followed := TaggedType.unwrap_tags tags (frame.toList_tagged tags) roomy found inner
  rw [addresses] at found followed
  rw [ethernet_of_type found ethertype]
  exact congrArg (attempt · _) followed

/-- Tags in a frame whose type field is no length make its Ethernet header longer, and all that is
read behind it is moved. -/
theorem ethernet_tagged (ethertype : ¬type ≤ 1500) :
    ∃ length rest, length ≤ frame.size ∧ rest.Placed frame EthernetHeader.size ∧
      ethernet frame 0 = after [.header ⟨.ethernet, 0, length⟩] rest ∧
      ethernet (frame.tagged tags) 0 =
        after [.header ⟨.ethernet, 0, length + 4 * tags.length⟩]
          (rest.moveBy (4 * tags.length)) := by
  have addressed := EthernetHeader.typeAt_le field
  have moved := Octets.moved_tagged addressed tags roomy
  have size := moved.size_eq
  have captured : 0 + EthernetHeader.size ≤ frame.size := Octets.lt_size_of_word16? field
  have start : 0 + 4 * tags.length = 0 + 4 * tags.length := rfl
  have near : frame.size + overhang < offsetBound := by omega
  obtain ⟨tagged, unwrapped, long⟩ := TaggedType.exists_unwrap (.ofValue type) captured near
  have inside := (TaggedType.guarded_unwrap frame _ captured).value unwrapped
  have behind : EthernetHeader.typeAt ≤ 0 + tagged.length := by
    rw [Nat.zero_add]
    exact Nat.le_trans (by decide : EthernetHeader.typeAt ≤ EthernetHeader.size) long
  -- From the type field of the frame on, both frames have the same tags, moved.
  have followed := TaggedType.unwrap_moved moved (.ofValue type) start
    (by decide : EthernetHeader.typeAt ≤ 0 + EthernetHeader.size) captured
  refine ⟨tagged.length, behindTags tagged frame 0, ?_, ?_, ?_, ?_⟩
  · omega
  · exact (placed_behindTags frame tagged inside).mono (by omega)
  · rw [ethernet_of_type field ethertype, unwrapped, attempt_ok]
  · rw [ethernet_of_tags field roomy fun _ => ethertype, followed, unwrapped,
      ← behindTags_moved moved start tagged behind inside]
    rfl

/-- Behind the Ethernet header of a tagged 802.3 frame, handlers are asked about the length, and
nothing is read. -/
theorem ethernet_tagged_of_le (short : type ≤ 1500) (some_tag : tags ≠ []) :
    ethernet (frame.tagged tags) 0 =
      after [.header ⟨.ethernet, 0, EthernetHeader.size + 4 * tags.length⟩]
        (ends (.consult .ethernet (EthernetHeader.size + 4 * tags.length) (.nextHeader type))) := by
  have size := (Octets.moved_tagged (EthernetHeader.typeAt_le field) tags roomy).size_eq
  have captured : EthernetHeader.size ≤ frame.size := Octets.lt_size_of_word16? field
  have sum : advance 0 (EthernetHeader.size + 4 * tags.length) =
      .ok (EthernetHeader.size + 4 * tags.length) := by
    rw [advance, if_pos (by omega), Nat.zero_add]
  -- A length is no type that is handled, not even that of a tag.
  have untagged : ¬(EtherType.unknown type).isTag = true := Bool.false_ne_true
  rw [ethernet_of_tags field roomy fun none => absurd none some_tag, EtherType.ofValue_of_le short,
    TaggedType.unwrap_eq, if_neg untagged, attempt_ok, behindTags, if_pos rfl, sum, attempt_ok]
  rfl

end Tags

end Reading

/-! ## Captures -/

namespace Dissector

/-- The first header of a protocol that the table has room for is recorded. -/
theorem exists_offer {d : Dissector} {span : Span} (empty : d.records = [])
    (room : d.capacity ≠ some 0) (admitted : d.Admits span) (header : span.id.kind = .protocol) :
    ∃ first, d.offer span = .ok first ∧ first.spans = [span] ∧
      first.scalars = { d.scalars with bitmask := d.scalars.bitmask.insert span.id } := by
  -- An empty table is full only if it has no room at all.
  have free : d.isFull = false := by
    unfold isFull recordCount
    rw [empty]
    split
    · rfl
    · next capacity found =>
      rw [found] at room
      exact decide_eq_false fun full => room (congrArg some (Nat.le_zero.mp full))
  obtain ⟨first, offered⟩ := offer_of_admits free admitted
  refine ⟨first, offered, ?_, ?_⟩
  · rw [spans_of_offer offered, spans, empty]
    rfl
  · obtain ⟨-, -, word, -, rfl⟩ := of_offer offered
    dsimp only
    rw [if_pos header]

section Capture

variable {d : Dissector} (link : d.config.link = .ethernet) (room : d.capacity ≠ some 0)

include link room

/-- A frame is dissected by recording its Ethernet header and following the rest of its reading. -/
theorem dissectCapture_ethernet {frame : Octets} (short : frame.size ≤ Span.maxLength)
    (wireLength : Nat) (timestamp : UInt64) {length : Nat} {rest : Reading}
    (inside : length ≤ frame.size)
    (reading : Reading.ethernet frame 0 = Reading.after [.header ⟨.ethernet, 0, length⟩] rest) :
    let start := d.reset.started frame.size wireLength timestamp
    ∃ first, start.Keeps first ∧ first.spans = [⟨.ethernet, 0, length⟩] ∧
      first.scalars = { bitmask := d.config.defaultBitmask.insert .ethernet, timestamp } ∧
      (start.dissectCapture frame).dissector =
        (follow (descend d.reset.levelsLeft) frame rest first).dissector := by
  intro start
  have within : 0 + length ≤ frame.size := by omega
  have admitted : start.Admits ⟨.ethernet, 0, length⟩ :=
    ⟨within, Nat.zero_le _, Nat.le_trans inside short⟩
  obtain ⟨first, offered, spans, scalars⟩ := exists_offer (d := start) rfl room admitted rfl
  have recorded : (start.takeAll [.header ⟨.ethernet, 0, length⟩]).1 = first := by
    show (start.addSpan ⟨.ethernet, 0, length⟩).1 = first
    rw [addSpan, offered]
  have reads : readLink start.config.link frame =
      Reading.after [.header ⟨.ethernet, 0, length⟩] rest := by
    rw [show start.config.link = .ethernet from link]
    exact reading
  refine ⟨first, (Evolves.store offered).keeps, spans, scalars, ?_⟩
  unfold dissectCapture
  rw [reads, follow_after, recorded]
  rfl

section Tags

variable (unhandled : d.registry = none) {frame : Octets} {type : UInt16}
  (field : frame.word16? EthernetHeader.typeAt = some type) {tags : List VlanTag}
  (short : (frame.tagged tags).size ≤ Span.maxLength)

include unhandled field short

/-- Dissecting a frame whose type field is no length, with tags and without, leaves the tables
alike. -/
theorem moved_dissectCapture (ethertype : ¬type ≤ 1500) (wireLength wireLength' : Nat)
    (timestamp : UInt64) :
    ∃ length, Moved (4 * tags.length) ⟨.ethernet, 0, length⟩
      ((d.reset.started frame.size wireLength timestamp).dissectCapture frame).dissector
      ((d.reset.started (frame.tagged tags).size wireLength' timestamp).dissectCapture
        (frame.tagged tags)).dissector := by
  have roomy := roomy_of_le_maxLength short
  have moved := Octets.moved_tagged (EthernetHeader.typeAt_le field) tags roomy
  have size := moved.size_eq
  obtain ⟨length, rest, inside, placed, reading, reading'⟩ :=
    Reading.ethernet_tagged field roomy ethertype
  obtain ⟨first, kept, spans, scalars, followed⟩ := dissectCapture_ethernet link room
    (by omega : frame.size ≤ Span.maxLength) wireLength timestamp inside reading
  obtain ⟨first', kept', spans', scalars', followed'⟩ := dissectCapture_ethernet link room
    short wireLength' timestamp (by omega) reading'
  -- Behind the Ethernet header the two dissectors are in step, and they stay so to the end.
  have begun : Moved (4 * tags.length) ⟨.ethernet, 0, length⟩ first first' := {
    config_eq := kept'.config_eq.trans kept.config_eq.symm
    registry_eq := ⟨kept.registry_eq.trans unhandled, kept'.registry_eq.trans unhandled⟩
    depth_eq := kept'.depth_eq.trans kept.depth_eq.symm
    capacity_eq := kept'.capacity_eq.trans kept.capacity_eq.symm
    captureLength_eq := by rw [kept'.captureLength_eq, kept.captureLength_eq]; exact size
    captureLength_le := by rw [kept'.captureLength_eq]; exact short
    scalars_eq := scalars'.trans scalars.symm
    spans_eq := ⟨[], spans, spans'⟩ }
  rw [followed, followed']
  exact ⟨length, begun.follow (moving_descend moved d.reset.levelsLeft) placed (by decide)⟩

/-- Dissecting a tagged 802.3 frame records its Ethernet header and nothing else. -/
theorem dissectCapture_tagged_of_le (length : type ≤ 1500) (some_tag : tags ≠ [])
    (wireLength : Nat) (timestamp : UInt64) :
    let dissected := ((d.reset.started (frame.tagged tags).size wireLength timestamp).dissectCapture
      (frame.tagged tags)).dissector
    dissected.spans = [⟨.ethernet, 0, EthernetHeader.size + 4 * tags.length⟩] ∧
      dissected.scalars = { bitmask := d.config.defaultBitmask.insert .ethernet, timestamp } := by
  have size := Octets.size_tagged (EthernetHeader.typeAt_le field) tags
  have captured : EthernetHeader.size ≤ frame.size := Octets.lt_size_of_word16? field
  obtain ⟨first, kept, spans, scalars, followed⟩ := dissectCapture_ethernet link room short
    wireLength timestamp (by omega)
    (Reading.ethernet_tagged_of_le field (roomy_of_le_maxLength short) length some_tag)
  have unasked : first.registry = none := kept.registry_eq.trans unhandled
  rw [followed]
  unfold follow consult Reading.ends
  dsimp only [takeAll]
  rw [unasked]
  exact ⟨spans, scalars⟩

end Tags

end Capture

end Dissector

/-- VLAN transparency of Ethernet II frames: tags behind the source address of a frame whose type
field is no length make the span of its Ethernet header longer by their octets and move all other
spans by as much, and nothing else that is told of the packet changes.

Of an 802.3 frame, whose type field is a length, only the Ethernet header is found as soon as there
is a tag. -/
theorem vlan_transparency {d : Dissector} (link : d.config.link = .ethernet)
    (unhandled : d.registry = none) (room : d.capacity ≠ some 0) {frame : Octets} {type : UInt16}
    (field : frame.word16? EthernetHeader.typeAt = some type) (tags : List VlanTag)
    (short : frame.size + 4 * tags.length ≤ Span.maxLength) {wireLength wireLength' : Nat}
    (wired : frame.size ≤ wireLength) (wired' : (frame.tagged tags).size ≤ wireLength')
    (timestamp : UInt64) :
    ∃ plain tagged, d.reset.dissect frame frame.size wireLength timestamp = .ok plain ∧
      d.reset.dissect (frame.tagged tags) (frame.tagged tags).size wireLength' timestamp =
        .ok tagged ∧
      (1500 < type →
        (∃ length rest, plain.1.spans = ⟨.ethernet, 0, length⟩ :: rest ∧
          tagged.1.spans = ⟨.ethernet, 0, length + 4 * tags.length⟩ ::
            rest.map (·.moveBy (4 * tags.length))) ∧
        tagged.1.scalars = plain.1.scalars) ∧
      (type ≤ 1500 → tags ≠ [] →
        tagged.1.spans = [⟨.ethernet, 0, EthernetHeader.size + 4 * tags.length⟩] ∧
        tagged.1.scalars.l2Type = .ethernet) := by
  have short' : (frame.tagged tags).size ≤ Span.maxLength := by
    rw [Octets.size_tagged (EthernetHeader.typeAt_le field) tags]
    exact short
  refine ⟨_, _, d.reset.dissect_whole wired timestamp, d.reset.dissect_whole wired' timestamp,
    ?_, ?_⟩ <;> simp only [Outcome.dissector_closed]
  · intro ethertype
    obtain ⟨length, moved⟩ := Dissector.moved_dissectCapture link room unhandled field short'
      (UInt16.not_le.mpr ethertype) wireLength wireLength' timestamp
    obtain ⟨rest, spans, spans'⟩ := moved.spans_eq
    exact ⟨⟨length, rest, spans, spans'⟩, moved.scalars_eq⟩
  · intro length some_tag
    obtain ⟨spans, scalars⟩ := Dissector.dissectCapture_tagged_of_le link room unhandled field
      short' length some_tag wireLength' timestamp
    exact ⟨spans, congrArg (·.l2Type) scalars⟩

/-- An IPv4 and UDP header in a frame with two tags. -/
theorem vlan_transparency_udp :
    let frame : Octets :=
      #[2, 0, 0, 0, 0, 1, 2, 0, 0, 0, 0, 2, 8, 0, 0x45, 0, 0, 28, 0, 0, 0, 0, 64, 17, 0, 0,
        10, 0, 0, 1, 10, 0, 0, 2, 0, 53, 0, 53, 0, 8, 0, 0]
    let tags : List VlanTag := [⟨.qinq, rfl, 0, 1⟩, ⟨.vlan, rfl, 0x20, 2⟩]
    let d : Dissector := {}
    d.config.link = .ethernet ∧ d.registry = none ∧ d.capacity ≠ some 0 ∧
      frame.word16? EthernetHeader.typeAt = some 0x0800 ∧
      frame.size + 4 * tags.length ≤ Span.maxLength ∧ frame.size ≤ 60 ∧
      (frame.tagged tags).size ≤ 64 ∧
      ∃ plain tagged, d.reset.dissect frame frame.size 60 0 = .ok plain ∧
        d.reset.dissect (frame.tagged tags) (frame.tagged tags).size 64 0 = .ok tagged ∧
        plain.1.spans = [⟨.ethernet, 0, 14⟩, ⟨.ipv4, 14, 20⟩, ⟨.udp, 34, 8⟩] ∧
        tagged.1.spans = [⟨.ethernet, 0, 22⟩, ⟨.ipv4, 22, 20⟩, ⟨.udp, 42, 8⟩] ∧
        tagged.1.scalars = plain.1.scalars := by
  intro frame tags d
  have field : frame.word16? EthernetHeader.typeAt = some 0x0800 := by decide
  have short : frame.size + 4 * tags.length ≤ Span.maxLength := by decide
  have wired : frame.size ≤ 60 := by decide
  have wired' : (frame.tagged tags).size ≤ 64 := by decide
  obtain ⟨plain, tagged, dissected, dissected', moved, -⟩ :=
    vlan_transparency (d := d) rfl rfl nofun field tags short wired wired' 0
  obtain ⟨⟨length, rest, spans, spans'⟩, scalars⟩ := moved (by decide)
  have found : (d.reset.dissect frame frame.size 60 0).toOption.map (·.1.spans) =
      some [⟨.ethernet, 0, 14⟩, ⟨.ipv4, 14, 20⟩, ⟨.udp, 34, 8⟩] := by
    decide +kernel
  rw [dissected] at found
  cases spans.symm.trans (Option.some.inj found)
  exact ⟨rfl, rfl, nofun, field, short, wired, wired', plain, tagged, dissected, dissected', spans,
    spans', scalars⟩

/-- Without a tag the LLC header of this 802.3 frame is recorded, and its framing is told. With a
tag neither is. -/
theorem tagged_llc_unread :
    let frame : Octets :=
      #[2, 0, 0, 0, 0, 1, 2, 0, 0, 0, 0, 2, 0, 5, 0x42, 0x42, 3, 0, 0]
    let tags : List VlanTag := [⟨.vlan, rfl, 0, 0x20⟩]
    let d : Dissector := {}
    ∃ plain tagged, d.reset.dissect frame frame.size 19 0 = .ok plain ∧
      d.reset.dissect (frame.tagged tags) (frame.tagged tags).size 23 0 = .ok tagged ∧
      plain.1.spans = [⟨.ethernet, 0, 14⟩, ⟨.llc, 14, 3⟩] ∧ plain.1.scalars.l2Type = .llc ∧
      tagged.1.spans = [⟨.ethernet, 0, 18⟩] ∧ tagged.1.scalars.l2Type = .ethernet := by
  intro frame tags d
  have untagged : (d.reset.dissect frame frame.size 19 0).toOption.map
      (fun traced => (traced.1.spans, traced.1.scalars.l2Type)) =
        some ([⟨.ethernet, 0, 14⟩, ⟨.llc, 14, 3⟩], .llc) := by
    decide +kernel
  have hidden : (d.reset.dissect (frame.tagged tags) (frame.tagged tags).size 23 0).toOption.map
      (fun traced => (traced.1.spans, traced.1.scalars.l2Type)) =
        some ([⟨.ethernet, 0, 18⟩], .ethernet) := by
    decide +kernel
  obtain ⟨plain, dissected, told⟩ := ok_of_map_toOption untagged
  obtain ⟨tagged, dissected', told'⟩ := ok_of_map_toOption hidden
  exact ⟨plain, tagged, dissected, dissected', congrArg (·.1) told, congrArg (·.2) told,
    congrArg (·.1) told', congrArg (·.2) told'⟩

end FrameSpans
