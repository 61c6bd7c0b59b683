import FrameSpans.Proofs.Reading.ExtensionHeaders
import FrameSpans.Proofs.Reading.Truncation
import FrameSpans.Proofs.Session.Safety

/-!
# How far a chain of extension headers leads

A chain goes on as long as the first two octets of one more extension header were captured, whether
or not the rest of that header was. `Chain.Walked` lists the headers that a chain comes by in this
way. Every one of them starts within the captured octets and takes at least eight, so there are few
(`Chain.Walked.count_le`), and only the last one may pass the captured octets, by no more than its
own length (`Chain.Walked.end_le`).

Following a chain walks exactly such headers and stops where no more can be read
(`Chain.exists_walked`). Together: reading a chain ends, with a length that is that of the headers
walked (`Chain.read_ends`).
-/

namespace FrameSpans

/-- The number of octets of an extension header is a multiple of eight between the least that an
extension header has and the most that its second octet can tell. -/
theorem ExtensionLink.lengthOf_bounds (type : IpProtocol) (declared : UInt8) :
    8 ∣ lengthOf type declared ∧ 8 ≤ lengthOf type declared ∧ lengthOf type declared ≤ 2048 := by
  have octet := declared.toNat_lt
  unfold lengthOf
  split
  · decide
  · omega

/-- A type of extension headers has an id, and tells their form. -/
theorem IpProtocol.exists_id_of_form {type : IpProtocol} {form : ExtensionForm}
    (shape : type.extensionForm? = some form) :
    ∃ id, ProtocolId.ipv6Extension? type = some id ∧ form = ExtensionLink.formOf type := by
  cases named : ProtocolId.ipv6Extension? type with
  | some id =>
    exact ⟨id, rfl, Option.some.inj (shape.symm.trans (extensionForm?_of_id named))⟩
  | none =>
    rw [extensionForm?_of_no_id named] at shape
    cases shape

namespace Chain

open ExtensionLink (total lengthOf formOf)

/-! ## The headers of a chain -/

/-- The octets from `position` on are these extension headers, one behind the other, the first of
them announced with type `type`, and the last of them announces `last`. Of each of them the first
two octets were captured. -/
inductive Walked (data : Octets) : Nat → IpProtocol → List ExtensionLink → IpProtocol → Prop
  /-- There is no header. -/
  | here (position : Nat) (type : IpProtocol) : Walked data position type [] type
  /-- What was announced is an extension header, and announces what comes behind it. -/
  | behind {position : Nat} {type last : IpProtocol} {id : ProtocolId} {next declared : UInt8}
    {links : List ExtensionLink} (extension : ProtocolId.ipv6Extension? type = some id)
    (announced : data.octet? position = some next)
    (told : data.octet? (position + 1) = some declared)
    (rest : Walked data (position + lengthOf type declared) (.ofValue next) links last) :
    Walked data position type (⟨type, id, position, lengthOf type declared⟩ :: links) last

namespace Walked

variable {data : Octets} {position : Nat} {type last : IpProtocol} {links : List ExtensionLink}

/-- The headers of a chain take a multiple of eight octets. -/
theorem dvd_total (h : Walked data position type links last) : 8 ∣ total links := by
  induction h with
  | here => exact Nat.dvd_zero 8
  | @behind _ type _ _ _ declared _ _ _ _ _ ih =>
    exact Nat.dvd_add (ExtensionLink.lengthOf_bounds type declared).1 ih

/-- Each header takes eight octets or more, and the first two of them were captured. -/
theorem count_le (h : Walked data position type links last) (nonempty : links ≠ []) :
    position + 8 * links.length ≤ data.size + 6 := by
  -- Induction along the chain: the last header starts two octets before the end at the latest.
  induction h with
  | here => exact absurd rfl nonempty
  | @behind position type _ _ _ declared links _ _ told _ ih =>
    have captured := (Array.getElem?_eq_some_iff.mp told).1
    obtain ⟨-, least, -⟩ := ExtensionLink.lengthOf_bounds type declared
    rw [List.length_cons]
    by_cases final : links = []
    · rw [final, List.length_nil]
      omega
    · have others := ih final
      omega

/-- The headers end in the captured octets, or behind them by what the last header has more than its
first two octets. -/
theorem end_le (h : Walked data position type links last) (nonempty : links ≠ []) :
    position + total links ≤ data.size + 2046 := by
  induction h with
  | here => exact absurd rfl nonempty
  | @behind position type _ _ _ declared links _ _ told _ ih =>
    have captured := (Array.getElem?_eq_some_iff.mp told).1
    obtain ⟨-, -, most⟩ := ExtensionLink.lengthOf_bounds type declared
    rw [ExtensionLink.total_cons]
    dsimp only
    by_cases final : links = []
    · rw [final, total]
      omega
    · have others := ih final
      omega

end Walked

/-! ## Following a chain -/

/-- The start of an extension header that was read tells its length and what it announces. -/
theorem octets_of_read? {data : Octets} {offset : Nat} {type : IpProtocol}
    {header : ExtensionHeader}
    (read : ExtensionHeader.read? data offset (formOf type) = some header) :
    ∃ next declared, data.octet? offset = some next ∧ data.octet? (offset + 1) = some declared ∧
      header = ⟨.ofValue next, lengthOf type declared⟩ := by
  cases announced : data.octet? offset with
  | none =>
    rw [ExtensionHeader.read?, announced] at read
    cases read
  | some next =>
    cases told : data.octet? (offset + 1) with
    | none =>
      rw [ExtensionHeader.read?, announced, told] at read
      cases read
    | some declared =>
      have again := read?_of_octets announced told type
      exact ⟨next, declared, rfl, rfl, Option.some.inj (read.symm.trans again)⟩

/-- An extension header whose first two octets were captured is read. -/
theorem size_lt_of_read?_none {data : Octets} {offset : Nat} {form : ExtensionForm}
    (h : ExtensionHeader.read? data offset form = none) : data.size < offset + 2 := by
  refine Nat.lt_of_not_le fun captured => ?_
  have first : data.octet? offset = some data[offset] := Array.getElem?_eq_getElem (by omega)
  have second : data.octet? (offset + 1) = some data[offset + 1] :=
    Array.getElem?_eq_getElem (by omega)
  rw [ExtensionHeader.read?, first, second] at h
  cases h

/-- What following a chain comes to behind the headers that were walked. -/
structure Stands (data : Octets) (position : Nat) (chain : Chain) : Prop where
  /-- The chain is complete exactly if what follows is no extension header. -/
  complete_iff : chain.complete = true ↔ chain.next.extensionForm? = none
  /-- Otherwise the start of the next extension header was not captured. -/
  size_lt : chain.complete = false → data.size < position + 2

/-- Following a chain walks extension headers up to the place where it stands. -/
theorem exists_walked {data : Octets} {start length : Nat} {next : IpProtocol} {isFirst : Bool}
    {chain : Chain} (found : follow data start next length isFirst = .ok chain) :
    ∃ links, Walked data (start + length) next links chain.next ∧
      chain.length = length + total links ∧ Stands data (start + chain.length) chain := by
  -- Induction along the chain: a header that is read is one more header that was walked.
  fun_induction follow data start next length isFirst generalizing chain with
  | case1 next length isFirst upper =>
    cases found
    refine ⟨[], .here _ _, rfl, ⟨fun _ => upper, fun _ => rfl⟩, fun cut => ?_⟩
    cases cut
  | case2 | case4 => cases found
  | case3 next length isFirst form shape offset sum none =>
    cases found
    obtain rfl := eq_add_of_advance sum
    refine ⟨[], .here _ _, rfl, ⟨fun full => ?_, fun upper => ?_⟩,
      fun _ => size_lt_of_read?_none none⟩
    · cases full
    · rw [shape] at upper
      cases upper
  | case5 next length isFirst form shape offset sum header read rest followed ih =>
    cases found
    obtain rfl := eq_add_of_advance sum
    obtain ⟨id, extension, rfl⟩ := IpProtocol.exists_id_of_form shape
    obtain ⟨announces, declared, announced, told, rfl⟩ := octets_of_read? read
    obtain ⟨links, walked, length_eq, stands⟩ := ih followed
    rw [← Nat.add_assoc] at walked
    refine ⟨_, .behind extension announced told walked, ?_, stands.complete_iff, stands.size_lt⟩
    rw [ExtensionLink.total_cons, ← Nat.add_assoc]
    exact length_eq

/-! ## Reading a chain -/

/-- Reading a chain that starts in a capture ends, whatever the octets are. It walks extension
headers, no more than one for each eight octets that were captured and one besides, and its length is
that of these headers, a multiple of eight. It passes the captured octets by 2046 at most. It is
complete exactly if what follows is no extension header, and if it is not, fewer than two octets
were captured where it stands. -/
theorem read_ends {data : Octets} {start : Nat} (size : data.size ≤ maxFrame)
    (inside : start ≤ data.size) (next : IpProtocol) :
    ∃ chain links, read data start next = .ok chain ∧ Walked data start next links chain.next ∧
      links.length ≤ (data.size - start) / 8 + 1 ∧
      chain.length = total links ∧ 8 ∣ chain.length ∧
      start + chain.length ≤ data.size + 2046 ∧
      (chain.complete = true ↔ chain.next.extensionForm? = none) ∧
      (chain.complete = false → data.size - (start + chain.length) < 2) := by
  have roomy : data.size + overhang < offsetBound := roomy_of_le_maxFrame size
  obtain ⟨chain, found, -⟩ :=
    exists_follow next true (by omega : start + 0 ≤ data.size + overhang) roomy
  obtain ⟨links, walked, length_eq, stands⟩ := exists_walked found
  rw [Nat.zero_add] at length_eq
  refine ⟨chain, links, found, walked, ?_, length_eq, length_eq ▸ walked.dvd_total, ?_,
    stands.complete_iff, fun cut => ?_⟩
  · by_cases empty : links = []
    · rw [empty]
      exact Nat.zero_le _
    · have count := walked.count_le empty
      rw [Nat.add_zero] at count
      omega
  · rw [length_eq]
    by_cases empty : links = []
    · rw [empty, total]
      omega
    · exact walked.end_le empty
  · have short := stands.size_lt cut
    omega

/-- Two headers in ten octets, as many as there may be: a fragment header, and the first two octets
of hop-by-hop options that tell the greatest length. The chain passes the captured octets as far as
a chain can. -/
theorem read_ends_beyond :
    let data : Octets := #[0x00, 0, 0, 0, 0, 0, 0, 0, 0x3c, 0xff]
    data.size ≤ maxFrame ∧ 0 ≤ data.size ∧
      ∃ chain links, read data 0 .ipv6Frag = .ok chain ∧
        Walked data 0 .ipv6Frag links chain.next ∧
        links.length ≤ (data.size - 0) / 8 + 1 ∧ chain.length = total links ∧ 8 ∣ chain.length ∧
        0 + chain.length ≤ data.size + 2046 ∧
        (chain.complete = true ↔ chain.next.extensionForm? = none) ∧
        (chain.complete = false → data.size - (0 + chain.length) < 2) ∧
        chain.length = data.size + 2046 ∧ chain.complete = false ∧ chain.next = .ipv6Opts := by
  intro data
  have size : data.size ≤ maxFrame := by decide
  have inside : 0 ≤ data.size := Nat.zero_le _
  obtain ⟨chain, links, found, walked, count, length_eq, dvd, ends, complete, short⟩ :=
    read_ends size inside .ipv6Frag
  have told : (read data 0 .ipv6Frag).toOption.map
      (fun chain => (chain.length, chain.complete, chain.next)) =
        some (2056, false, .ipv6Opts) := by
    decide +kernel
  rw [found] at told
  obtain ⟨length, rest⟩ := Prod.mk.inj (Option.some.inj told)
  obtain ⟨cut, follows⟩ := Prod.mk.inj rest
  exact ⟨size, inside, chain, links, found, walked, count, length_eq, dvd, ends, complete, short,
    length, cut, follows⟩

end Chain

end FrameSpans
