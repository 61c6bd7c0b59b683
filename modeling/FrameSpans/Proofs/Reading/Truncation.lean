import FrameSpans.Proofs.Reading.Displacement

/-!
# What is read of fewer octets

The octets of a capture may be the first ones of a longer capture (`Octets.Begins`). What is read of
them is then read of the longer capture as well (`Lasting`): every header that was captured
completely has the same fields, and the same options (`HeaderOption.scan_begins`).

Two things are found in part where the octets end. VLAN tags belong to an Ethernet header, and those
that were not captured are left out (`TaggedType.unwrap_begins`). A chain of extension headers goes
by the lengths that these tell, so it may find a header that ends behind the octets, and nothing
behind that (`Chain.cut_follow`).
-/

namespace FrameSpans

/-! ## Octets -/

/-- The octets are the first ones of `whole`, which leaves the overhang of a header free behind
it. -/
structure Octets.Begins (data whole : Octets) : Prop where
  /-- There are no fewer octets in the whole. -/
  size_le : data.size ≤ whole.size
  /-- The octets are those of the whole. -/
  getElem?_eq : ∀ offset : Nat, offset < data.size → whole[offset]? = data[offset]?
  /-- Positions a little behind the whole are offsets. -/
  roomy : whole.size + overhang < offsetBound

/-- The first octets of a buffer are the first ones of those that are longer. -/
theorem Octets.begins_extract {buffer : Octets} {shorter longer : Nat} (le : shorter ≤ longer)
    (held : longer ≤ buffer.size) (roomy : longer + overhang < offsetBound) :
    Begins (buffer.extract 0 shorter) (buffer.extract 0 longer) where
  size_le := by
    rw [Array.size_extract, Array.size_extract]
    omega
  getElem?_eq offset inside := by
    rw [Array.size_extract] at inside
    rw [Array.getElem?_extract, Array.getElem?_extract, if_pos (by omega), if_pos (by omega)]
  roomy := by
    rw [Array.size_extract]
    omega

/-- What is read of fewer octets is read of more, the same or something like it. -/
def Lasting {α β : Type} (R : α → β → Prop) (short : Except Stop α) (long : Except Stop β) : Prop :=
  ∀ value, short = .ok value → ∃ value', long = .ok value' ∧ R value value'

namespace Lasting

variable {α β γ δ : Type} {R : α → β → Prop} {S : γ → δ → Prop}

/-- A value lasts. -/
theorem pure {value : α} {value' : β} (h : R value value') :
    Lasting R (Pure.pure value) (Pure.pure value') := by
  rintro _ ⟨⟩
  exact ⟨value', rfl, h⟩

/-- The same result lasts. -/
theorem refl (result : Except Stop α) : Lasting Eq result result :=
  fun value found => ⟨value, found, rfl⟩

/-- Reading goes on with what lasts. -/
theorem bind {short : Except Stop α} {long : Except Stop β} {next : α → Except Stop γ}
    {next' : β → Except Stop δ} (first : Lasting R short long)
    (rest : ∀ value value', short = .ok value → R value value' →
      Lasting S (next value) (next' value')) :
    Lasting S (short >>= next) (long >>= next') := by
  intro result found
  cases read : short with
  | error stop =>
    rw [read] at found
    cases found
  | ok value =>
    obtain ⟨value', read', same⟩ := first value read
    rw [read] at found
    rw [read']
    exact rest value value' read same result found

/-- Reading goes on with the same value. -/
theorem bind_eq {short long : Except Stop α} {next : α → Except Stop γ} {next' : α → Except Stop δ}
    (first : Lasting Eq short long)
    (rest : ∀ value, short = .ok value → Lasting S (next value) (next' value)) :
    Lasting S (short >>= next) (long >>= next') :=
  first.bind fun value _ read same => same ▸ rest value read

end Lasting

namespace Octets.Begins

variable {data whole : Octets} (h : Begins data whole)

include h

/-- What is required lasts. -/
theorem require (offset length : Nat) :
    Lasting Eq (data.require offset length) (whole.require offset length) := by
  have size := h.size_le
  unfold Octets.require captured
  intro value found
  split at found
  · cases found
  · rw [if_neg (by omega)]
    exact ⟨value, found, rfl⟩

/-- An octet lasts. -/
theorem octet (offset : Nat) : Lasting Eq (data.octet offset) (whole.octet offset) := by
  intro value found
  unfold Octets.octet at found ⊢
  split at found
  · next b captured =>
    have inside := (Array.getElem?_eq_some_iff.mp captured).1
    rw [h.getElem?_eq offset inside, captured]
    exact ⟨value, found, rfl⟩
  · cases found

/-- A 16-bit field lasts. -/
theorem word16 (offset : Nat) : Lasting Eq (data.word16 offset) (whole.word16 offset) :=
  (h.octet offset).bind_eq fun _ _ => (h.octet (offset + 1)).bind_eq fun _ _ => .pure rfl

/-- A 24-bit field lasts. -/
theorem word24 (offset : Nat) : Lasting Eq (data.word24 offset) (whole.word24 offset) :=
  (h.octet offset).bind_eq fun _ _ => (h.octet (offset + 1)).bind_eq fun _ _ =>
    (h.octet (offset + 2)).bind_eq fun _ _ => .pure rfl

/-- A 32-bit field lasts. -/
theorem word32 (offset : Nat) : Lasting Eq (data.word32 offset) (whole.word32 offset) :=
  (h.octet offset).bind_eq fun _ _ => (h.octet (offset + 1)).bind_eq fun _ _ =>
    (h.octet (offset + 2)).bind_eq fun _ _ => (h.octet (offset + 3)).bind_eq fun _ _ => .pure rfl

/-- Octets that are cut out last. -/
theorem slice (offset length : Nat) :
    Lasting (fun _ _ => True) (data.slice offset length) (whole.slice offset length) := by
  have size := h.size_le
  unfold Octets.slice captured
  intro value found
  split at found
  · cases found
  · rw [if_neg (by omega)]
    exact ⟨_, rfl, trivial⟩

/-- The position behind a header lasts. -/
theorem behind (offset length : Nat) :
    Lasting Eq (data.behind offset length) (whole.behind offset length) := by
  intro value found
  unfold Octets.behind at found ⊢
  split at found
  · cases found
  · next captured =>
    obtain ⟨_, captured', -⟩ := h.require offset length _ captured
    rw [captured']
    exact ⟨value, found, rfl⟩

/-- An octet within the fewer octets is the same. -/
theorem octet?_eq {offset : Nat} (inside : offset < data.size) :
    whole.octet? offset = data.octet? offset :=
  h.getElem?_eq offset inside

/-- A 16-bit field within the fewer octets is the same. -/
theorem word16?_eq {offset : Nat} (inside : offset + 1 < data.size) :
    whole.word16? offset = data.word16? offset := by
  unfold word16?
  rw [h.getElem?_eq offset (by omega), h.getElem?_eq (offset + 1) inside]

/-- Positions near the fewer octets are near the whole ones. -/
theorem advance_eq {offset length : Nat} (near : offset + length ≤ whole.size + overhang) :
    advance offset length = .ok (offset + length) := by
  have roomy := h.roomy
  exact if_pos (by omega)

end Octets.Begins

/-! ## Headers -/

section Headers

variable {data whole : Octets} (h : Octets.Begins data whole) (offset : Nat)

include h

/-- An Ethernet header. The octets behind it may be missing from the shorter capture. -/
theorem EthernetHeader.lasting_read :
    Lasting (fun header header' => header'.typeOrLength = header.typeOrLength ∧
        (offset + 16 ≤ data.size → header'.accessPoints = header.accessPoints ∧
          header'.isNovellRaw = header.isNovellRaw))
      (read data offset) (read whole offset) := by
  refine (h.require offset size).bind_eq fun _ _ => ?_
  refine (h.slice offset 6).bind fun destination destination' _ _ => ?_
  refine (h.slice (offset + 6) 6).bind fun source source' _ _ => ?_
  refine (h.word16 (offset + 12)).bind_eq fun typeOrLength _ => ?_
  refine .pure ⟨rfl, fun captured => ?_⟩
  rw [h.octet?_eq (by omega), h.octet?_eq (by omega), h.word16?_eq (by omega)]
  exact ⟨rfl, rfl⟩

/-- An ARP packet. -/
theorem ArpHeader.lasting_read : Lasting Eq (read data offset) (read whole offset) := by
  refine (h.require offset size).bind_eq fun _ _ => ?_
  refine (h.word16 offset).bind_eq fun _ _ => ?_
  refine (h.word16 (offset + 2)).bind_eq fun _ _ => ?_
  refine (h.octet (offset + 4)).bind_eq fun _ _ => ?_
  refine (h.octet (offset + 5)).bind_eq fun _ _ => ?_
  exact (h.word16 (offset + 6)).bind_eq fun _ _ => .pure rfl

/-- An IPv4 header. -/
theorem Ipv4Header.lasting_read : Lasting Eq (read data offset) (read whole offset) := by
  refine (h.require offset size).bind_eq fun _ _ => ?_
  refine (h.octet offset).bind_eq fun _ _ => ?_
  refine (h.word16 (offset + 2)).bind_eq fun _ _ => ?_
  refine (h.word16 (offset + 6)).bind_eq fun _ _ => ?_
  exact (h.octet (offset + 9)).bind_eq fun _ _ => .pure rfl

/-- An IPv6 header. -/
theorem Ipv6Header.lasting_read : Lasting Eq (read data offset) (read whole offset) := by
  refine (h.require offset size).bind_eq fun _ _ => ?_
  refine (h.octet offset).bind_eq fun _ _ => ?_
  refine (h.word16 (offset + 4)).bind_eq fun _ _ => ?_
  exact (h.octet (offset + 6)).bind_eq fun _ _ => .pure rfl

/-- The ports of a transport header. -/
theorem Ports.lasting_read (size : Nat) :
    Lasting Eq (read data offset size) (read whole offset size) := by
  refine (h.require offset size).bind_eq fun _ _ => ?_
  refine (h.word16 offset).bind_eq fun _ _ => ?_
  exact (h.word16 (offset + 2)).bind_eq fun _ _ => .pure rfl

/-- A TCP header. -/
theorem TcpHeader.lasting_read : Lasting Eq (read data offset) (read whole offset) := by
  refine (Ports.lasting_read h offset size).bind_eq fun _ _ => ?_
  exact (h.octet (offset + 12)).bind_eq fun _ _ => .pure rfl

/-- A GRE header. -/
theorem GreHeader.lasting_read : Lasting Eq (read data offset) (read whole offset) := by
  refine (h.require offset size).bind_eq fun _ _ => ?_
  refine (h.word16 offset).bind_eq fun _ _ => ?_
  exact (h.word16 (offset + 2)).bind_eq fun _ _ => .pure rfl

/-- An ICMP message. How much of it was captured depends on the capture. -/
theorem IcmpHeader.lasting_read :
    Lasting (fun header header' => header'.type = header.type) (read data offset)
      (read whole offset) := by
  refine (h.require offset size).bind_eq fun _ _ => ?_
  refine (h.octet offset).bind_eq fun _ _ => ?_
  exact (h.octet (offset + 1)).bind_eq fun _ _ => .pure rfl

/-- A VXLAN header. -/
theorem VxlanHeader.lasting_read : Lasting Eq (read data offset) (read whole offset) := by
  refine (h.require offset size).bind_eq fun _ _ => ?_
  refine (h.octet offset).bind_eq fun _ _ => ?_
  exact (h.word24 (offset + 4)).bind_eq fun _ _ => .pure rfl

/-- A Geneve header. -/
theorem GeneveHeader.lasting_read : Lasting Eq (read data offset) (read whole offset) := by
  refine (h.require offset size).bind_eq fun _ _ => ?_
  refine (h.octet offset).bind_eq fun _ _ => ?_
  refine (h.octet (offset + 1)).bind_eq fun _ _ => ?_
  refine (h.word16 (offset + 2)).bind_eq fun _ _ => ?_
  exact (h.word24 (offset + 4)).bind_eq fun _ _ => .pure rfl

/-- The readable part of an ESP packet. -/
theorem EspHeader.lasting_read : Lasting Eq (read data offset) (read whole offset) := by
  refine (h.require offset size).bind_eq fun _ _ => ?_
  refine (h.word32 offset).bind_eq fun _ _ => ?_
  exact (h.word32 (offset + 4)).bind_eq fun _ _ => .pure rfl

end Headers

/-! ## Options and tags -/

/-- An option that is not a single octet tells a length of at least two, if it tells any. -/
theorem HeaderOption.length?_of_long (data : Octets) {offset : Nat} {kind : UInt8}
    (long : isSingleOctet kind = false) (roomy : offset + overhang < offsetBound) :
    length? data offset kind = .ok none ∨
      ∃ length, length? data offset kind = .ok (some length) ∧ 2 ≤ length ∧ length < 256 := by
  have second : advance offset 1 = .ok (offset + 1) := by
    rw [overhang] at roomy
    exact if_pos (by omega)
  rw [length?, if_neg (Bool.eq_false_iff.mp long), second]
  dsimp only
  split
  · next told _ =>
    split
    · next valid => exact .inr ⟨_, rfl, UInt8.le_iff_toNat_le.mp valid, told.toNat_lt⟩
    · exact .inl rfl
  · exact .inl rfl

/-- An option with a length does not fit into the last octet of a header. -/
theorem HeaderOption.scan_last (data : Octets) {offset : Nat} {kind : UInt8}
    (captured : data.octet? offset = some kind) (long : isSingleOctet kind = false)
    (roomy : offset + overhang < offsetBound) : scan data offset (offset + 1) = .ok [] := by
  rw [scan_eq, if_pos (Nat.lt_succ_self offset), captured]
  dsimp only
  rcases length?_of_long data long roomy with told | ⟨length, told, two, bound⟩
  · rw [told]
  · have next : advance offset length = .ok (offset + length) := by
      rw [overhang] at roomy
      exact if_pos (by omega)
    rw [told]
    dsimp only
    rw [next]
    exact if_pos (by omega)

section Lists

variable {data whole : Octets} (h : Octets.Begins data whole)

include h

/-- The length of an option whose first two octets were captured is the same. -/
theorem HeaderOption.length?_begins {offset : Nat} {kind : UInt8}
    (inside : isSingleOctet kind = false → offset + 1 < data.size) :
    length? whole offset kind = length? data offset kind := by
  unfold length?
  split
  · rfl
  · next long =>
    cases sum : advance offset 1 with
    | error stop => rfl
    | ok second =>
      obtain rfl := eq_add_of_advance sum
      dsimp only
      rw [h.octet?_eq (inside (Bool.eq_false_iff.mpr long))]

/-- The options of a header that was captured completely are the same. -/
theorem HeaderOption.scan_begins {offset stop : Nat} (inside : stop ≤ data.size) :
    scan whole offset stop = scan data offset stop := by
  have size := h.size_le
  have roomy := h.roomy
  by_cases before : offset < stop
  · cases captured : data.octet? offset with
    | none => rw [scan_eq whole, scan_eq data, h.octet?_eq (by omega), captured]
    | some kind =>
      have captured' : whole.octet? offset = some kind := (h.octet?_eq (by omega)).trans captured
      by_cases last : isSingleOctet kind = false ∧ stop = offset + 1
      · obtain ⟨long, rfl⟩ := last
        rw [scan_last whole captured' long (by omega), scan_last data captured long (by omega)]
      · have same : length? whole offset kind = length? data offset kind := by
          refine length?_begins h fun long => ?_
          have more : stop ≠ offset + 1 := fun equal => last ⟨long, equal⟩
          omega
        rw [scan_eq whole, scan_eq data, if_pos before, if_pos before, captured, captured']
        dsimp only
        rw [same]
        cases told : length? data offset kind with
        | error stopped => rfl
        | ok length =>
          cases length with
          | none => rfl
          | some length =>
            dsimp only
            cases sum : advance offset length with
            | error stopped => rfl
            | ok next =>
              have pos := pos_of_length? told
              have next := eq_add_of_advance sum
              dsimp only
              rw [scan_begins inside]
  · rw [scan_eq whole, scan_eq data, if_neg before, if_neg before]
termination_by stop - offset

/-- Tags that were captured are the same in both. Those that were not lie within the whole octets,
as far as they are part of the header there. -/
theorem TaggedType.unwrap_begins {offset length : Nat} {etherType : EtherType} {tagged : TaggedType}
    (inside : offset + length ≤ data.size)
    (found : unwrap data offset length etherType = .ok tagged) :
    ∃ tagged', unwrap whole offset length etherType = .ok tagged' ∧
      offset + tagged'.length ≤ whole.size ∧ (tagged.complete = true → tagged' = tagged) := by
  have size := h.size_le
  fun_induction unwrap data offset length etherType generalizing tagged with
  | case1 => cases found
  | case2 length etherType tag inner sum type captured ih =>
    have within := Octets.lt_size_of_word16? captured
    have next := eq_add_of_advance sum
    have room : offset + (length + EthernetHeader.tagSize) ≤ data.size := by
      rw [EthernetHeader.tagSize]
      omega
    rw [unwrap_eq, if_pos tag, sum]
    dsimp only
    rw [h.word16?_eq within, captured]
    exact ih room found
  | case3 length etherType tag inner sum missing =>
    cases found
    have room := Nat.le_trans inside size
    obtain ⟨tagged', read, -⟩ := exists_unwrap etherType room h.roomy
    exact ⟨tagged', read, (guarded_unwrap whole etherType room).value read,
      fun complete => absurd complete Bool.false_ne_true⟩
  | case4 length etherType tag =>
    cases found
    rw [unwrap_eq, if_neg tag]
    exact ⟨_, rfl, Nat.le_trans inside size, fun _ => rfl⟩

end Lists

/-! ## Chains of extension headers -/

/-- What is found ends within so many octets. -/
def Mark.Within (size : Nat) : Mark → Prop
  | .option span => span.offset + span.length ≤ size
  | .fragment _ => True

/-- What is found ends behind so many octets. -/
def Mark.Beyond (size : Nat) : Mark → Prop
  | .option span => size < span.offset + span.length
  | .fragment _ => True

/-- What lies between two positions ends within the last one. -/
theorem Mark.Between.within {mark : Mark} {first last size : Nat} (h : mark.Between first last)
    (inside : last ≤ size) : mark.Within size := by
  cases mark with
  | option span => exact Nat.le_trans h.2 inside
  | fragment => trivial

/-- An extension header that was read has at least eight octets, and its first two were captured. -/
theorem ExtensionHeader.bounds_of_read? {data : Octets} {offset : Nat} {form : ExtensionForm}
    {header : ExtensionHeader} (h : read? data offset form = some header) :
    8 ≤ header.length ∧ offset + 1 < data.size := by
  unfold read? at h
  split at h
  · next first second =>
    refine ⟨?_, (Array.getElem?_eq_some_iff.mp second).1⟩
    rw [← Option.some.inj h]
    dsimp only
    split <;> omega
  · cases h

namespace Chain

/-- What an extension header that ends behind the captured octets leaves ends behind them too. -/
theorem beyond_marksOf (data : Octets) {offset length size : Nat} (type : IpProtocol)
    (form : ExtensionForm) (beyond : size < offset + length) :
    ∀ mark ∈ marksOf data offset type form length, mark.Beyond size := by
  unfold marksOf
  intro mark member
  split at member <;> split at member
  · cases List.mem_singleton.mp member
    trivial
  · cases member
  · cases List.mem_singleton.mp member
    exact beyond
  · cases member

/-- A chain near the octets can be followed, and its end is near them. -/
theorem exists_follow {data : Octets} {start length : Nat} (next : IpProtocol) (isFirst : Bool)
    (near : start + length ≤ data.size + overhang) (roomy : data.size + overhang < offsetBound) :
    ∃ chain, follow data start next length isFirst = .ok chain ∧
      start + chain.length ≤ data.size + overhang := by
  fun_induction follow data start next length isFirst with
  | case1 | case3 => exact ⟨_, rfl, near⟩
  | case2 next length isFirst form _ stop fault =>
    have sum : advance start length = .ok (start + length) := if_pos (by omega)
    rw [sum] at fault
    cases fault
  | case4 next length isFirst form _ offset sum header read stop failed ih =>
    obtain rfl := eq_add_of_advance sum
    have bound := ExtensionHeader.length_le_of_read? read
    have inside := (ExtensionHeader.bounds_of_read? read).2
    obtain ⟨chain, followed, -⟩ := ih (by omega)
    rw [failed] at followed
    cases followed
  | case5 next length isFirst form _ offset sum header read rest followed ih =>
    obtain rfl := eq_add_of_advance sum
    have bound := ExtensionHeader.length_le_of_read? read
    have inside := (ExtensionHeader.bounds_of_read? read).2
    obtain ⟨chain, again, ends⟩ := ih (by omega)
    rw [followed] at again
    cases again
    exact ⟨_, rfl, ends⟩

/-- Behind the captured octets a chain finds nothing more. -/
theorem follow_behind {data : Octets} {start length : Nat} {next : IpProtocol} {isFirst : Bool}
    {chain : Chain} (behind : data.size ≤ start + length)
    (found : follow data start next length isFirst = .ok chain) :
    chain.marks = [] ∧ chain.length = length := by
  rw [follow_eq] at found
  split at found
  · cases found
    exact ⟨rfl, rfl⟩
  · split at found
    · cases found
    · next offset sum =>
      obtain rfl := eq_add_of_advance sum
      split at found
      · cases found
        exact ⟨rfl, rfl⟩
      · next header read =>
        have inside := (ExtensionHeader.bounds_of_read? read).2
        omega

/-- How a chain in fewer octets differs from the one in the whole. -/
inductive Cut (size start : Nat) (chain chain' : Chain) : Prop
  /-- It does not, as it ends within the fewer octets. -/
  | same (same : chain' = chain) (ends : start + chain.length ≤ size)
    (within : ∀ mark ∈ chain.marks, mark.Within size)
  /-- From some point on nothing that it finds ends within the fewer octets, and it is not complete
  or ends behind them. -/
  | parted (front rear rear' : List Mark) (marks_eq : chain.marks = front ++ rear)
    (marks_eq' : chain'.marks = front ++ rear') (within : ∀ mark ∈ front, mark.Within size)
    (beyond : ∀ mark ∈ rear, mark.Beyond size)
    (ends : chain.complete = true → size < start + chain.length)

section Follow

variable {data whole : Octets} (h : Octets.Begins data whole)

include h

/-- An extension header that was read is the same in the whole octets. -/
theorem read?_begins {offset : Nat} {form : ExtensionForm} {header : ExtensionHeader}
    (read : ExtensionHeader.read? data offset form = some header) :
    ExtensionHeader.read? whole offset form = some header := by
  have inside := (ExtensionHeader.bounds_of_read? read).2
  unfold ExtensionHeader.read? at read ⊢
  rw [h.octet?_eq (by omega), h.octet?_eq inside]
  exact read

/-- The fields of a fragment header that was captured completely are the same. -/
theorem fragmentFields_begins {offset : Nat} (inside : offset + 8 ≤ data.size) :
    FragmentFields.read? whole offset = FragmentFields.read? data offset := by
  unfold FragmentFields.read?
  rw [h.word16?_eq (by omega)]

/-- A chain in fewer octets and the one in the whole. -/
theorem cut_follow {start length : Nat} {next : IpProtocol} {isFirst : Bool} {chain : Chain}
    (inside : start + length ≤ data.size)
    (found : follow data start next length isFirst = .ok chain) :
    ∃ chain', follow whole start next length isFirst = .ok chain' ∧
      start + chain'.length ≤ whole.size + overhang ∧ Cut data.size start chain chain' := by
  have size := h.size_le
  have roomy := h.roomy
  -- Induction along the chain, as long as its headers are captured completely.
  fun_induction follow data start next length isFirst generalizing chain with
  | case1 next length isFirst extension =>
    cases found
    have near : start + length ≤ whole.size + overhang := by omega
    obtain ⟨chain', followed, ends⟩ := exists_follow next isFirst near roomy
    rw [follow_eq, extension] at followed ⊢
    cases followed
    exact ⟨_, rfl, ends, .same rfl inside (List.forall_mem_nil _)⟩
  | case2 | case4 => cases found
  | case3 next length isFirst form _ offset sum missing =>
    cases found
    have near : start + length ≤ whole.size + overhang := by omega
    obtain ⟨chain', followed, ends⟩ := exists_follow next isFirst near roomy
    exact ⟨chain', followed, ends, .parted [] [] chain'.marks rfl rfl (List.forall_mem_nil _)
      (List.forall_mem_nil _) fun complete => absurd complete Bool.false_ne_true⟩
  | case5 next length isFirst form extension offset sum header read rest followed ih =>
    cases found
    obtain rfl := eq_add_of_advance sum
    by_cases captured : start + length + header.length ≤ data.size
    · have eight := (ExtensionHeader.bounds_of_read? read).1
      have enough : start + length + 8 ≤ data.size := by omega
      have fields := fragmentFields_begins h enough
      have marks : marksOf whole (start + length) next form header.length =
          marksOf data (start + length) next form header.length := by
        unfold marksOf
        rw [fields]
      have first : isFirstBehind whole (start + length) form isFirst =
          isFirstBehind data (start + length) form isFirst := by
        unfold isFirstBehind
        rw [fields]
      have within : ∀ mark ∈ marksOf data (start + length) next form header.length,
          mark.Within data.size :=
        fun mark member => (between_marksOf data _ next form header.length mark member).within
          captured
      obtain ⟨rest', followed', ends, cut⟩ := ih (by omega) followed
      have followed_whole := follow_of_read isFirst extension (by omega) (read?_begins h read)
      rw [first, followed', marks] at followed_whole
      refine ⟨_, followed_whole, ends, ?_⟩
      cases cut with
      | same same ends others =>
        subst same
        exact .same rfl ends (List.forall_mem_append.mpr ⟨within, others⟩)
      | parted front rear rear' front_eq front_eq' others beyond ends =>
        refine .parted (marksOf data (start + length) next form header.length ++ front) rear rear'
          ?_ ?_ (List.forall_mem_append.mpr ⟨within, others⟩) beyond ends
        · show _ ++ rest.marks = _
          rw [front_eq, List.append_assoc]
        · show _ ++ rest'.marks = _
          rw [front_eq', List.append_assoc]
    · -- What was not captured is not recorded, and nothing is read behind it.
      have near : start + length ≤ whole.size + overhang := by omega
      obtain ⟨none_found, stays⟩ := follow_behind (by omega) followed
      obtain ⟨chain', followed', ends⟩ := exists_follow next isFirst near roomy
      refine ⟨chain', followed', ends, .parted []
        (marksOf data (start + length) next form header.length) chain'.marks ?_ rfl
        (List.forall_mem_nil _) (beyond_marksOf data next form (by omega)) fun _ => ?_⟩
      · show _ ++ rest.marks = _
        rw [none_found, List.append_nil, List.nil_append]
      · show data.size < start + rest.length
        omega

end Follow

end Chain

end FrameSpans
