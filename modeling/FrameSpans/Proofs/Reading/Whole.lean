import FrameSpans.Proofs.Reading.Framing
import FrameSpans.Proofs.Reading.Succession

/-!
# Datagrams that are no fragments

Whether an IP datagram is a fragment stands in the field of an IPv4 header behind its identification,
or in a header of the chain behind an IPv6 header. `Octets.WholeIpv4` and `Octets.WholeIpv6` tell
from the octets that it is none. A level whose IP header is that of a whole datagram does not tell a
fragment (`Reading.unfragmented_ip`, `Reading.unfragmented_ethernet`).
-/

namespace FrameSpans

/-! ## Whole datagrams -/

/-- The IPv4 header at `offset` is not that of a fragment: no more fragments follow, and the fragment
offset is zero. -/
def Octets.WholeIpv4 (data : Octets) (offset : Nat) : Prop :=
  ∀ flags, data.word16? (offset + 6) = some flags → flags &&& 0x3fff = 0

/-- No fragment header stands in the chain behind the IPv6 header at `offset`. -/
def Octets.WholeIpv6 (data : Octets) (offset : Nat) : Prop :=
  ∀ next position, data.octet? (offset + 6) = some next →
    ¬Chain.Visits data (offset + Ipv6Header.size) (.ofValue next) position .ipv6Frag

/-- If the step finds an IP header, it is that of a whole datagram. -/
def Step.Whole (data : Octets) : Step → Prop
  | .header span => span.id = .ipv4 → data.WholeIpv4 span.offset
  | .chained base _ _ => data.WholeIpv6 base.offset
  | .mark _ | .framing _ | .payload .. | .remark _ => True

/-- An IPv4 header whose field was captured is that of a whole datagram if the flag and the offset
of a fragment are zero in it. -/
theorem Octets.wholeIpv4_of_field {data : Octets} {offset : Nat} {field : UInt16}
    (captured : data.word16? (offset + 6) = some field) (clear : field &&& 0x3fff = 0) :
    data.WholeIpv4 offset := by
  intro flags found
  rw [captured] at found
  cases found
  exact clear

/-- An IPv4 header without the flag and the offset of a fragment is not that of a fragment. -/
theorem Ipv4Header.isFragment_of_whole {data : Octets} {offset : Nat} {header : Ipv4Header}
    (h : read data offset = .ok header) (whole : data.WholeIpv4 offset) :
    header.isFragment = false := by
  obtain ⟨_, _, h⟩ := ok_of_bind h
  obtain ⟨first, _, h⟩ := ok_of_bind h
  obtain ⟨totalLength, _, h⟩ := ok_of_bind h
  obtain ⟨flags, field, h⟩ := ok_of_bind h
  obtain ⟨protocol, _, h⟩ := ok_of_bind h
  cases h
  have clear := whole flags (Octets.word16?_of_word16 field)
  have part (mask : UInt16) (within : 0x3fff &&& mask = mask) : flags &&& mask = 0 := by
    rw [← within, ← UInt16.and_assoc, clear, UInt16.zero_and]
  have last : flags &&& 0x2000 = 0 := part 0x2000 rfl
  have start : flags <<< 3 = 0 := (fragmentOffset_eq_zero_iff flags).mpr (part 0x1fff rfl)
  show (flags &&& 0x2000 != 0 || flags <<< 3 != 0) = false
  rw [last, start]
  rfl

namespace Chain

/-- An extension header that is no fragment header leaves no mark of a fragment. -/
theorem unfragmented_marksOf (data : Octets) (offset : Nat) {type : IpProtocol}
    {form : ExtensionForm} (length : Nat) (extension : type.extensionForm? = some form)
    (other : type ≠ .ipv6Frag) :
    ∀ mark ∈ marksOf data offset type form length, mark.Unfragmented := by
  intro mark member
  unfold marksOf at member
  split at member
  · -- Only a fragment header has a fixed length.
    exact absurd (by cases type <;> first | rfl | cases extension) other
  · split at member
    · cases List.mem_singleton.mp member
      trivial
    · cases member

/-- A chain without a fragment header leaves no mark of a fragment. -/
theorem unfragmented_follow {data : Octets} {start length : Nat} {next : IpProtocol}
    {isFirst : Bool}
    (whole : ∀ position, ¬Visits data (start + length) next position .ipv6Frag) {chain : Chain}
    (found : follow data start next length isFirst = .ok chain) :
    ∀ mark ∈ chain.marks, mark.Unfragmented := by
  fun_induction follow data start next length isFirst generalizing chain with
  | case1 | case3 =>
    cases found
    exact List.forall_mem_nil _
  | case2 | case4 => cases found
  | case5 next length isFirst form extension offset sum header read rest followed ih =>
    cases found
    obtain rfl := eq_add_of_advance sum
    intro mark member
    rcases List.mem_append.mp member with here | later
    · refine unfragmented_marksOf data _ header.length extension ?_ mark here
      rintro rfl
      exact whole _ (.here _ _)
    · refine ih (fun position visited => ?_) followed mark later
      rw [← Nat.add_assoc] at visited
      exact whole position (.behind extension read visited)

end Chain

/-! ## Levels -/

namespace Reading

variable {data : Octets} {offset : Nat}

/-- The IPv4 header of a whole datagram. -/
theorem unfragmented_ipv4 (whole : (ipv4 data offset).Only (Step.Whole data)) :
    (ipv4 data offset).Only Step.Unfragmented := by
  rw [ipv4, only_attempt] at whole ⊢
  intro header read
  replace whole := whole header read
  by_cases short : header.headerLength < Ipv4Header.size
  · rw [if_pos short]
    exact .after_one trivial only_complete
  · rw [if_neg short] at whole ⊢
    simp only [only_attempt, only_after] at whole ⊢
    intro payload behind options scanned
    obtain ⟨found, -, -⟩ := whole payload behind options scanned
    have none := Ipv4Header.isFragment_of_whole read (found _ List.mem_cons_self rfl)
    refine ⟨?_, ?_, ?_⟩
    · intro step member
      rcases List.mem_cons.mp member with rfl | marked
      · trivial
      · obtain ⟨option, -, rfl⟩ := List.mem_map.mp marked
        trivial
    · rw [none]
      exact List.forall_mem_nil _
    · split
      · exact only_complete
      · exact (plain_ipPayload data payload header.protocol .ipv4).unfragmented

/-- The IPv6 header of a whole datagram. -/
theorem unfragmented_ipv6 (whole : (ipv6 data offset).Only (Step.Whole data)) :
    (ipv6 data offset).Only Step.Unfragmented := by
  simp only [ipv6, only_attempt, only_after] at whole ⊢
  intro header read start sum chain found payload behind
  obtain ⟨chained, -⟩ := whole header read start sum chain found payload behind
  obtain ⟨next, octet, told⟩ := Ipv6Header.fields_of_read read
  obtain rfl := eq_add_of_advance sum
  rw [told] at found
  have clear (position : Nat) :
      ¬Chain.Visits data (offset + Ipv6Header.size + 0) (.ofValue next) position .ipv6Frag :=
    chained _ List.mem_cons_self next position octet
  refine ⟨List.forall_mem_singleton.mpr (Chain.unfragmented_follow clear found), ?_⟩
  split
  · exact only_stopped _
  · split
    · exact only_complete
    · exact (plain_ipPayload data payload chain.next .ipv6).unfragmented

/-- The IP header of a whole datagram of either version. -/
theorem unfragmented_ip (whole : (ip data offset).Only (Step.Whole data)) :
    (ip data offset).Only Step.Unfragmented := by
  unfold ip at whole ⊢
  split
  · exact only_stopped _
  · next first found =>
    rw [found] at whole
    dsimp only at whole
    split
    · next version =>
      rw [version] at whole
      exact unfragmented_ipv4 whole
    · next version =>
      rw [version] at whole
      exact unfragmented_ipv6 whole
    · exact .after_one trivial only_complete

/-- A link layer payload that is no fragment. -/
theorem unfragmented_etherType {type : EtherType}
    (whole : (etherType type data offset).Only (Step.Whole data)) :
    (etherType type data offset).Only Step.Unfragmented := by
  cases type with
  | ipv4 => exact unfragmented_ipv4 whole
  | ipv6 => exact unfragmented_ipv6 whole
  | arp | rarp => exact (plain_arp data offset).unfragmented
  | ipx => exact (plain_fixed data offset .ipx _).unfragmented
  | _ => exact only_ends _

/-- The framing, and a header, in front of a reading that does not tell a fragment. -/
theorem Only.after_framed {type : L2Type} {span : Span} {rest : Reading}
    (h : rest.Only Step.Unfragmented) :
    (after [.framing type, .header span] rest).Only Step.Unfragmented := by
  have behind : (after [.header span] rest).Only Step.Unfragmented := .after_one trivial h
  exact List.forall_mem_cons.mpr ⟨trivial, behind⟩

/-- A SNAP header in front of what is no fragment. -/
theorem unfragmented_snap (whole : (snap data offset).Only (Step.Whole data)) :
    (snap data offset).Only Step.Unfragmented := by
  simp only [snap, only_attempt] at whole ⊢
  intro typeAt sum payload sum'
  replace whole := whole typeAt sum payload sum'
  split
  · exact only_stopped _
  · next type found =>
    rw [found] at whole
    exact .after_framed (unfragmented_etherType ((only_after _ _).mp whole).2)

/-- What follows the Ethernet header of an 802.3 frame, and is no fragment. -/
theorem unfragmented_ieee8023 {header : EthernetHeader}
    (whole : (ieee8023 data offset header).Only (Step.Whole data)) :
    (ieee8023 data offset header).Only Step.Unfragmented := by
  unfold ieee8023 at whole ⊢
  by_cases raw : header.isNovellRaw = true
  · rw [if_pos raw]
    exact .after_one trivial (plain_fixed data offset .ipx _).unfragmented
  · rw [if_neg raw, only_attempt] at whole ⊢
    intro behind captured
    replace whole := whole behind captured
    split
    · exact only_stopped _
    · next dsap ssap points =>
      rw [points] at whole
      replace whole := ((only_after _ _).mp whole).2
      refine .after_framed ?_
      by_cases snapped : dsap = sapSnap ∧ ssap = sapSnap
      · rw [if_pos snapped] at whole ⊢
        exact unfragmented_snap whole
      · rw [if_neg snapped]
        split
        · exact (plain_fixed data behind .ipx _).unfragmented
        · exact only_complete

/-- An Ethernet frame whose payload is no fragment. -/
theorem unfragmented_ethernet (whole : (ethernet data offset).Only (Step.Whole data)) :
    (ethernet data offset).Only Step.Unfragmented := by
  rw [ethernet, only_attempt] at whole ⊢
  intro header read
  replace whole := whole header read
  by_cases sized : header.is8023 = true
  · rw [if_pos sized, only_attempt] at whole ⊢
    intro behind sum
    exact .after_one trivial
      (unfragmented_ieee8023 ((only_after _ _).mp (whole behind sum)).2)
  · rw [if_neg sized, only_attempt] at whole ⊢
    intro tagged unwrapped
    replace whole := ((only_after _ _).mp (whole tagged unwrapped)).2
    refine .after_one trivial ?_
    by_cases captured : tagged.complete = true
    · rw [if_pos captured, only_attempt] at whole ⊢
      exact fun payload sum => unfragmented_etherType (whole payload sum)
    · rw [if_neg captured]
      exact only_stopped _

end Reading

end FrameSpans
