import FrameSpans.Proofs.Dissector.Walk
import FrameSpans.Proofs.ProtocolId
import FrameSpans.Proofs.Reading.Captured
import FrameSpans.Proofs.Reading.Options
import FrameSpans.Proofs.Session.Safety

/-!
# The options that are offered

The options of a header are read by their octets and then offered under the policy. Reading is the
parse of the option area, and gives each option the id of its first octet (`Reading.ipv4_eq_parse`,
`Reading.tcp_eq_parse`). Taking the marks of options offers the span of each one that the policy asks
for, once and in order, and does nothing else (`Dissector.offersAsked_options`). Together: what is
offered of an option area is a function of its octets and the policy (`HeaderOption.scan_offers`).
-/

namespace FrameSpans

/-! ## Spans of options -/

namespace HeaderOption

/-- The span of an option of an IPv4 header. -/
def ipv4Span (option : HeaderOption) : Span :=
  ⟨.ofIpv4Type option.kind, option.offset, option.length⟩

/-- The span of an option of a TCP header, if options of its kind have an id. -/
def tcpSpan? (option : HeaderOption) : Option Span :=
  (ProtocolId.ofTcpKind? option.kind).map fun id => ⟨id, option.offset, option.length⟩

/-- IPv4 options leave the marks of their spans. -/
theorem ipv4Mark_eq (option : HeaderOption) : option.ipv4Mark = .option option.ipv4Span := by
  rw [ipv4Mark, ipv4Span, ProtocolId.ipv4Option_ofValue]

/-- TCP options leave the marks of their spans. -/
theorem tcpMark?_eq (option : HeaderOption) : option.tcpMark? = option.tcpSpan?.map .option := by
  rw [tcpMark?, tcpSpan?, ProtocolId.tcpOption?_ofValue, Option.map_map]
  rfl

/-- The marks of the options of an IPv4 header are those of their spans. -/
theorem map_ipv4Mark (options : List HeaderOption) :
    (options.map fun option => Step.mark option.ipv4Mark) =
      (options.map ipv4Span).map fun span => .mark (.option span) := by
  simp only [ipv4Mark_eq, List.map_map]
  rfl

/-- The marks of the options of a TCP header are those of their spans. -/
theorem map_tcpMark? (options : List HeaderOption) :
    (options.filterMap tcpMark?).map Step.mark =
      (options.filterMap tcpSpan?).map fun span => .mark (.option span) := by
  rw [funext tcpMark?_eq, ← List.map_filterMap, List.map_map]
  rfl

end HeaderOption

/-! ## Offers -/

/-- The span that an event tells was offered. -/
def Event.offered? : Event → Option Span
  | .stored span | .refused span _ => some span
  | _ => none

namespace Dissector

/-- Offers spans one after the other. -/
def addSpans (d : Dissector) : List Span → Traced
  | [] => (d, [])
  | span :: rest =>
    let (first, events) := d.addSpan span
    let (last, more) := first.addSpans rest
    (last, events ++ more)

/-- What happens when a span is offered tells that it was offered, and nothing else. -/
theorem offered_addSpan (d : Dissector) (span : Span) :
    (d.addSpan span).2.map Event.offered? = [some span] := by
  unfold addSpan
  split <;> rfl

/-- What happens when spans are offered names each of them, once and in order, and nothing else. -/
theorem offered_addSpans (d : Dissector) (spans : List Span) :
    (d.addSpans spans).2.map Event.offered? = spans.map some := by
  induction spans generalizing d with
  | nil => rfl
  | cons span rest ih =>
    show ((d.addSpan span).2 ++ _).map Event.offered? = _
    rw [List.map_append, offered_addSpan, ih]
    rfl

/-- Taking the marks of options offers the span of each one that the policy asks for, in order. -/
theorem takeAll_options (d : Dissector) (spans : List Span) :
    d.takeAll (spans.map fun span => .mark (.option span)) =
      d.addSpans (spans.filter fun span => d.config.recordsOption span.id) := by
  induction spans generalizing d with
  | nil => rfl
  | cons span rest ih =>
    simp only [List.map_cons, takeAll, take, takeMark]
    by_cases asked : d.config.recordsOption span.id = true
    · have kept : (d.addSpan span).1.config = d.config := (d.evolves_addSpan span).keeps.config_eq
      rw [if_pos asked, ih, kept, List.filter_cons_of_pos (by exact asked)]
      rfl
    · rw [if_neg asked, ih, List.filter_cons_of_neg (by exact asked)]
      rfl

/-- Taking these steps offers those of the spans that the policy asks for, once and in order, and
does nothing else. -/
def OffersAsked (d : Dissector) (steps : List Step) (spans : List Span) : Prop :=
  let asked := spans.filter fun span => d.config.recordsOption span.id
  d.takeAll steps = d.addSpans asked ∧
    (d.takeAll steps).2.map Event.offered? = asked.map some

/-- Taking the marks of options offers their spans. -/
theorem offersAsked_options (d : Dissector) (spans : List Span) :
    d.OffersAsked (spans.map fun span => .mark (.option span)) spans := by
  have taken := d.takeAll_options spans
  refine ⟨taken, ?_⟩
  rw [taken]
  exact d.offered_addSpans _

end Dissector

/-! ## Headers -/

namespace Reading

/-- Readings that go on alike with every result are the same. -/
theorem attempt_congr {α : Type} {result : Except Stop α} {next next' : α → Reading}
    (rest : ∀ value, result = .ok value → next value = next' value) :
    attempt result next = attempt result next' := by
  cases result with
  | error stop => rfl
  | ok value => exact rest value rfl

variable {data : Octets} (size : data.size ≤ maxFrame)

include size

/-- The reading of an IPv4 header finds the options that the octets behind its fixed part hold. -/
theorem ipv4_eq_parse (offset : Nat) :
    ipv4 data offset =
      attempt (Ipv4Header.read data offset) fun header =>
      if header.headerLength < Ipv4Header.size then
        after [.remark (.ipv4HeaderLength header.headerLength offset)] complete
      else
        attempt (data.behind offset header.headerLength) fun payload =>
        after (.header ⟨.ipv4, offset, header.headerLength⟩
          :: ((HeaderOption.parse (offset + Ipv4Header.size)
              (HeaderOption.area data (offset + Ipv4Header.size) payload)).map
                HeaderOption.ipv4Span).map fun span => .mark (.option span)) <|
        after (if header.isFragment then [.mark (.fragment !header.moreFragments)] else []) <|
        if header.fragmentOffset ≠ 0 then complete
        else ipPayload data payload header.protocol .ipv4 := by
  unfold ipv4
  refine attempt_congr fun header _ => ?_
  split
  · rfl
  · next long =>
    have pos : 0 < header.headerLength := by
      have size : Ipv4Header.size = 20 := rfl
      omega
    refine attempt_congr fun payload passed => ?_
    obtain ⟨rfl, inside⟩ := (data.guarded_behind offset pos).value passed
    rw [HeaderOption.scan_eq_parse inside (roomy_of_le_maxFrame size), attempt_ok,
      HeaderOption.map_ipv4Mark]

/-- The reading of a TCP header finds those of the options behind its fixed part that have an id. -/
theorem tcp_eq_parse (offset : Nat) :
    tcp data offset =
      attempt (TcpHeader.read data offset) fun header =>
      if header.headerLength < TcpHeader.size then
        after [.remark (.tcpHeaderLength header.headerLength offset)] complete
      else
        attempt (data.behind offset header.headerLength) fun payload =>
        after (.header ⟨.tcp, offset, header.headerLength⟩
          :: ((HeaderOption.parse (offset + TcpHeader.size)
              (HeaderOption.area data (offset + TcpHeader.size) payload)).filterMap
                HeaderOption.tcpSpan?).map fun span => .mark (.option span)) <|
        ends (.consult .tcp payload (.ports header.ports.source header.ports.destination)) := by
  unfold tcp
  refine attempt_congr fun header _ => ?_
  split
  · rfl
  · next long =>
    have pos : 0 < header.headerLength := by
      have size : TcpHeader.size = 20 := rfl
      omega
    refine attempt_congr fun payload passed => ?_
    obtain ⟨rfl, inside⟩ := (data.guarded_behind offset pos).value passed
    rw [HeaderOption.scan_eq_parse inside (roomy_of_le_maxFrame size), attempt_ok,
      HeaderOption.map_tcpMark?]

variable {offset : Nat}

/-- What is behind a captured header of a frame starts where the header ends. -/
theorem behind_of_captured {length : Nat} (captured : offset + length ≤ data.size) :
    data.behind offset length = .ok (offset + length) :=
  Octets.behind_of_le
    (Nat.lt_of_le_of_lt (Nat.le_add_right _ _) (roomy_of_le_maxFrame size)) captured

/-- The reading of an IPv4 header that was captured with its options. -/
theorem ipv4_of_captured {header : Ipv4Header} (read : Ipv4Header.read data offset = .ok header)
    (long : Ipv4Header.size ≤ header.headerLength)
    (captured : offset + header.headerLength ≤ data.size) :
    ipv4 data offset =
      after (.header ⟨.ipv4, offset, header.headerLength⟩
        :: ((HeaderOption.parse (offset + Ipv4Header.size) (HeaderOption.area data
            (offset + Ipv4Header.size) (offset + header.headerLength))).map
              HeaderOption.ipv4Span).map fun span => .mark (.option span))
      (after (if header.isFragment then [.mark (.fragment !header.moreFragments)] else [])
        (if header.fragmentOffset ≠ 0 then complete
        else ipPayload data (offset + header.headerLength) header.protocol .ipv4)) := by
  rw [ipv4_eq_parse size, read, attempt_ok, if_neg (Nat.not_lt.mpr long),
    behind_of_captured size captured, attempt_ok]

/-- The reading of a TCP header that was captured with its options. -/
theorem tcp_of_captured {header : TcpHeader} (read : TcpHeader.read data offset = .ok header)
    (long : TcpHeader.size ≤ header.headerLength)
    (captured : offset + header.headerLength ≤ data.size) :
    tcp data offset =
      after (.header ⟨.tcp, offset, header.headerLength⟩
        :: ((HeaderOption.parse (offset + TcpHeader.size) (HeaderOption.area data
            (offset + TcpHeader.size) (offset + header.headerLength))).filterMap
              HeaderOption.tcpSpan?).map fun span => .mark (.option span))
      (ends (.consult .tcp (offset + header.headerLength)
        (.ports header.ports.source header.ports.destination))) := by
  rw [tcp_eq_parse size, read, attempt_ok, if_neg (Nat.not_lt.mpr long),
    behind_of_captured size captured, attempt_ok]

end Reading

/-! ## Offers of a header -/

namespace HeaderOption

/-- The options of the header between `start` and `stop` are those of the parse of its octets. They
stand one behind the other from `start` on and none passes `stop`; octets elsewhere have no
influence. Taking their marks offers the span of each option that the policy asks for, once and in
order, and nothing else: an IPv4 option has the id of its type octet, a TCP option that of its kind
octet, and TCP options of other kinds are not offered. In the reading of an IPv4 or TCP header of
which this is the option area these marks are taken behind the header, in front of all that
follows. -/
theorem scan_offers {data : Octets} {start stop : Nat} (size : data.size ≤ maxFrame)
    (inside : stop ≤ data.size) :
    ∃ options, scan data start stop = .ok options ∧
      options = parse start (area data start stop) ∧
      (∀ front option rest, options = front ++ option :: rest →
        option.offset = start + (front.map (·.length)).sum ∧
          option.offset + option.length ≤ stop ∧
          data.octet? option.offset = some option.kind) ∧
      (∀ other : Octets, other.size ≤ maxFrame → stop ≤ other.size →
        area other start stop = area data start stop → scan other start stop = .ok options) ∧
      (∀ d : Dissector,
        d.OffersAsked (options.map fun option => .mark option.ipv4Mark) (options.map ipv4Span) ∧
          d.OffersAsked ((options.filterMap tcpMark?).map .mark) (options.filterMap tcpSpan?)) ∧
      (∀ offset header, Ipv4Header.read data offset = .ok header →
        Ipv4Header.size ≤ header.headerLength → start = offset + Ipv4Header.size →
          stop = offset + header.headerLength →
          Reading.ipv4 data offset =
            .after (.header ⟨.ipv4, offset, header.headerLength⟩
              :: options.map fun option => .mark option.ipv4Mark)
            (.after (if header.isFragment then [.mark (.fragment !header.moreFragments)] else [])
              (if header.fragmentOffset ≠ 0 then .complete
              else .ipPayload data stop header.protocol .ipv4))) ∧
      ∀ offset header, TcpHeader.read data offset = .ok header →
        TcpHeader.size ≤ header.headerLength → start = offset + TcpHeader.size →
          stop = offset + header.headerLength →
          Reading.tcp data offset =
            .after (.header ⟨.tcp, offset, header.headerLength⟩
              :: (options.filterMap tcpMark?).map .mark)
            (.ends (.consult .tcp stop
              (.ports header.ports.source header.ports.destination))) := by
  have scanned : scan data start stop = .ok (parse start (area data start stop)) :=
    scan_eq_parse inside (roomy_of_le_maxFrame size)
  refine ⟨_, scanned, rfl, fun front option rest listed => ?_, fun other size' inside' same => ?_,
    fun d => ⟨?_, ?_⟩, ?_, ?_⟩
  · -- Options that tile the area start where those before them end.
    have tiled := tile_parse start (area data start stop)
    rw [length_area inside, listed] at tiled
    obtain ⟨place, pos, within⟩ := tiled.of_append
    have member : option ∈ parse start (area data start stop) := by
      rw [listed]
      exact List.mem_append_right _ List.mem_cons_self
    exact ⟨place, by omega, octet?_of_mem_parse inside member⟩
  · -- The parse is given the octets of the area and no others.
    rw [scan_eq_parse inside' (roomy_of_le_maxFrame size'), same]
  · rw [map_ipv4Mark]
    exact d.offersAsked_options _
  · rw [map_tcpMark?]
    exact d.offersAsked_options _
  · rintro offset header read long rfl rfl
    rw [Reading.ipv4_of_captured size read long inside, map_ipv4Mark]
  · rintro offset header read long rfl rfl
    rw [Reading.tcp_of_captured size read long inside, map_tcpMark?]

/-- An IPv4 packet with options and a TCP segment with options. The last octets of each option area
start an option that its length takes behind the area, and of the TCP options the one that permits
selective acknowledgement has no id. What is offered are the options before, without that one. -/
theorem scan_offers_segment :
    let data : Octets :=
      #[0x47, 0, 0, 64, 0, 0, 0, 0, 64, 6, 0, 0, 10, 0, 0, 1, 10, 0, 0, 2,
        0x94, 4, 0, 0, 1, 1, 1, 0x44,
        4, 0, 0, 80, 0, 0, 0, 1, 0, 0, 0, 0, 0x90, 2, 0, 0, 0, 0, 0, 0,
        2, 4, 5, 0xb4, 4, 2, 34, 6, 0, 0, 0, 0, 1, 8, 10, 0]
    let ipv4Options : List HeaderOption := [⟨0x94, 20, 4⟩, ⟨1, 24, 1⟩, ⟨1, 25, 1⟩, ⟨1, 26, 1⟩]
    let tcpOptions : List HeaderOption := [⟨2, 48, 4⟩, ⟨4, 52, 2⟩, ⟨34, 54, 6⟩, ⟨1, 60, 1⟩]
    let ipv4Marks : List Step := ipv4Options.map fun option => .mark option.ipv4Mark
    let tcpMarks : List Step := (tcpOptions.filterMap tcpMark?).map .mark
    let d : Dissector := { captureLength := 64, wireLength := 64 }
    data.size ≤ maxFrame ∧ 28 ≤ data.size ∧ 64 ≤ data.size ∧
      scan data 20 28 = .ok ipv4Options ∧ scan data 48 64 = .ok tcpOptions ∧
      (∀ other : Octets, other.size ≤ maxFrame → 28 ≤ other.size →
        area other 20 28 = area data 20 28 → scan other 20 28 = .ok ipv4Options) ∧
      (d.takeAll ipv4Marks).2.map Event.offered? =
        [some ⟨⟨.ipv4Option, 20⟩, 20, 4⟩, some ⟨⟨.ipv4Option, 1⟩, 24, 1⟩,
          some ⟨⟨.ipv4Option, 1⟩, 25, 1⟩, some ⟨⟨.ipv4Option, 1⟩, 26, 1⟩] ∧
      (d.takeAll tcpMarks).2.map Event.offered? =
        [some ⟨⟨.tcpOption, 2⟩, 48, 4⟩, some ⟨⟨.tcpOption, 30⟩, 54, 6⟩,
          some ⟨⟨.tcpOption, 1⟩, 60, 1⟩] ∧
      .header ⟨.ipv4, 0, 28⟩ :: ipv4Marks <+: (Reading.ipv4 data 0).steps ∧
      (Reading.tcp data 28).steps = .header ⟨.tcp, 28, 36⟩ :: tcpMarks := by
  intro data ipv4Options tcpOptions ipv4Marks tcpMarks d
  have size : data.size ≤ maxFrame := by decide
  have packet : 28 ≤ data.size := by decide
  have segment : 64 ≤ data.size := by decide
  obtain ⟨options, scanned, parsed, -, unaffected, offers, ipv4, -⟩ :=
    @scan_offers data 20 28 size packet
  obtain ⟨others, scanned', parsed', -, -, offers', -, tcp⟩ := @scan_offers data 48 64 size segment
  obtain rfl : options = ipv4Options := parsed.trans (by decide +kernel)
  obtain rfl : others = tcpOptions := parsed'.trans (by decide +kernel)
  obtain ⟨header, read, length⟩ : ∃ header, Ipv4Header.read data 0 = .ok header ∧
      header.headerLength = 28 := ⟨_, rfl, by decide +kernel⟩
  obtain ⟨header', read', length'⟩ : ∃ header, TcpHeader.read data 28 = .ok header ∧
      header.headerLength = 36 := ⟨_, rfl, by decide +kernel⟩
  have reading := ipv4 0 header read (by rw [length]; decide) rfl (by rw [length])
  have reading' := tcp 28 header' read' (by rw [length']; decide) rfl (by rw [length'])
  rw [length] at reading
  rw [length'] at reading'
  refine ⟨size, packet, segment, scanned, scanned', unaffected,
    (offers d).1.2.trans (by decide +kernel), (offers' d).2.2.trans (by decide +kernel), ?_, ?_⟩
  · rw [reading]
    exact List.prefix_append _ _
  · rw [reading']
    exact List.append_nil _

end HeaderOption

end FrameSpans
