import FrameSpans.Proofs.Reading.Classes

/-!
# Which steps tell the framing and a fragment

Besides headers, a level tells two things of its packet: the framing of the link layer and that the
packet is a fragment. Only link layer headers tell the framing (`Reading.unframed_etherType`), and
only IP headers tell a fragment; transport headers, IPX and ARP tell neither (`Step.Plain`).

What all steps of a reading have in common is `Reading.Only`, with one lemma for each way in which a
reading is built.
-/

namespace FrameSpans

/-! ## What a step tells -/

/-- A mark that is not that of a fragment. -/
def Mark.Unfragmented : Mark → Prop
  | .option _ => True
  | .fragment _ => False

/-- A step that does not tell a fragment. -/
def Step.Unfragmented : Step → Prop
  | .mark found => found.Unfragmented
  | .chained _ marks _ => ∀ mark ∈ marks, mark.Unfragmented
  | .header _ | .framing _ | .payload .. | .remark _ => True

/-- A step that does not tell the framing. -/
def Step.Unframed : Step → Prop
  | .framing _ => False
  | .header _ | .mark _ | .chained .. | .payload .. | .remark _ => True

/-- A step that tells neither the framing nor a fragment, and finds no chain. -/
def Step.Plain : Step → Prop
  | .mark found => found.Unfragmented
  | .chained .. | .framing _ => False
  | .header _ | .payload .. | .remark _ => True

/-- A plain step does not tell the framing. -/
theorem Step.Plain.unframed {step : Step} (h : step.Plain) : step.Unframed := by
  cases step with
  | framing => exact h.elim
  | _ => trivial

/-- A plain step does not tell a fragment. -/
theorem Step.Plain.unfragmented {step : Step} (h : step.Plain) : step.Unfragmented := by
  cases step with
  | mark => exact h
  | chained => exact h.elim
  | _ => trivial

/-- A TCP option is not the mark of a fragment. -/
theorem HeaderOption.unfragmented_tcpMark? {option : HeaderOption} {mark : Mark}
    (h : option.tcpMark? = some mark) : mark.Unfragmented := by
  obtain ⟨id, -, rfl⟩ := Option.map_eq_some_iff.mp h
  trivial

namespace Reading

/-! ## Readings of such steps -/

/-- A reading all of whose steps have a property. -/
def Only (P : Step → Prop) (reading : Reading) : Prop :=
  ∀ step ∈ reading.steps, P step

section Only

variable {P Q : Step → Prop}

/-- Steps that have a property have a weaker one. -/
theorem Only.mono {reading : Reading} (h : reading.Only P) (weaken : ∀ step, P step → Q step) :
    reading.Only Q :=
  fun step member => weaken step (h step member)

/-- Plain steps do not tell the framing. -/
theorem Only.unframed {reading : Reading} (h : reading.Only Step.Plain) :
    reading.Only Step.Unframed :=
  h.mono fun _ => Step.Plain.unframed

/-- Plain steps do not tell a fragment. -/
theorem Only.unfragmented {reading : Reading} (h : reading.Only Step.Plain) :
    reading.Only Step.Unfragmented :=
  h.mono fun _ => Step.Plain.unfragmented

/-- A reading without steps. -/
@[simp] theorem only_ends (ending : Ending) : (ends ending).Only P :=
  nofun

/-- A reading that finds nothing more to read. -/
@[simp] theorem only_complete : complete.Only P :=
  nofun

/-- A reading that stops. -/
@[simp] theorem only_stopped (stop : Stop) : (stopped stop).Only P :=
  nofun

/-- Steps in front of a reading. -/
@[simp] theorem only_after (steps : List Step) (rest : Reading) :
    (after steps rest).Only P ↔ (∀ step ∈ steps, P step) ∧ rest.Only P :=
  List.forall_mem_append

/-- A step in front of a reading. -/
theorem Only.after_one {step : Step} {rest : Reading} (first : P step) (behind : rest.Only P) :
    (after [step] rest).Only P :=
  List.forall_mem_cons.mpr ⟨first, behind⟩

/-- A reading that goes on with a result. -/
@[simp] theorem only_attempt {α : Type} (result : Except Stop α) (next : α → Reading) :
    (attempt result next).Only P ↔ ∀ value, result = .ok value → (next value).Only P := by
  cases result with
  | error stop => simp
  | ok value => simp

end Only

/-! ## Headers that tell neither -/

section Plain

variable (data : Octets) (offset : Nat)

/-- A TCP header. -/
theorem plain_tcp : (tcp data offset).Only Step.Plain := by
  rw [tcp, only_attempt]
  intro header _
  split
  · exact .after_one trivial only_complete
  · simp only [only_attempt, only_after, only_ends, and_true]
    intro payload _ options _ step member
    rcases List.mem_cons.mp member with rfl | marked
    · trivial
    · obtain ⟨mark, found, rfl⟩ := List.mem_map.mp marked
      obtain ⟨option, -, marked⟩ := List.mem_filterMap.mp found
      exact HeaderOption.unfragmented_tcpMark? marked

/-- A UDP header. -/
theorem plain_udp : (udp data offset).Only Step.Plain := by
  simp only [udp, only_attempt]
  intro ports _ payload _
  exact .after_one trivial (only_ends _)

/-- A header of fixed length, behind which nothing is read. -/
theorem plain_fixed (id : ProtocolId) (length : Nat) :
    (attempt (data.require offset length) fun _ =>
      after [.header ⟨id, offset, length⟩] complete).Only Step.Plain := by
  rw [only_attempt]
  intro _ _
  exact .after_one trivial only_complete

/-- An ICMPv6 message. -/
theorem plain_icmpv6 : (icmpv6 data offset).Only Step.Plain := by
  rw [icmpv6, only_attempt]
  intro header _
  dsimp only
  split
  · exact .after_one trivial only_complete
  · next length _ => exact plain_fixed data offset .icmpv6 length
  · rw [only_attempt]
    intro quoted _
    exact .after_one trivial (only_ends _)

/-- A GRE header. -/
theorem plain_gre : (gre data offset).Only Step.Plain := by
  simp only [gre, only_attempt]
  intro header _ payload _
  exact .after_one trivial (only_ends _)

/-- The header behind an IP header. -/
theorem plain_ipPayload (protocol : IpProtocol) (parent : ProtocolId) :
    (ipPayload data offset protocol parent).Only Step.Plain := by
  refine .after_one trivial ?_
  cases protocol with
  | tcp => exact plain_tcp data offset
  | udp => exact plain_udp data offset
  | icmp => exact plain_fixed data offset .icmpv4 _
  | icmpv6 => exact plain_icmpv6 data offset
  | gre => exact plain_gre data offset
  | sctp => exact plain_fixed data offset .sctp _
  | ipxInIp => exact plain_fixed data offset .ipx _
  | _ => exact only_ends _

/-- An ARP packet. -/
theorem plain_arp : (arp data offset).Only Step.Plain := by
  rw [arp, only_attempt]
  intro header _
  exact .after_one trivial only_complete

end Plain

/-! ## Headers that do not tell the framing -/

section Unframed

variable (data : Octets) (offset : Nat)

/-- An IPv4 header does not tell the framing. -/
theorem unframed_ipv4 : (ipv4 data offset).Only Step.Unframed := by
  rw [ipv4, only_attempt]
  intro header _
  split
  · exact .after_one trivial only_complete
  · simp only [only_attempt, only_after]
    intro payload _ options _
    refine ⟨?_, ?_, ?_⟩
    · intro step member
      rcases List.mem_cons.mp member with rfl | marked
      · trivial
      · obtain ⟨option, -, rfl⟩ := List.mem_map.mp marked
        trivial
    · split
      · exact List.forall_mem_singleton.mpr trivial
      · exact List.forall_mem_nil _
    · split
      · exact only_complete
      · exact (plain_ipPayload data payload header.protocol .ipv4).unframed

/-- An IPv6 header does not tell the framing. -/
theorem unframed_ipv6 : (ipv6 data offset).Only Step.Unframed := by
  simp only [ipv6, only_attempt]
  intro header _ start _ chain _ payload _
  refine .after_one trivial ?_
  split
  · exact only_stopped _
  · split
    · exact only_complete
    · exact (plain_ipPayload data payload chain.next .ipv6).unframed

/-- An IP header of either version does not tell the framing. -/
theorem unframed_ip : (ip data offset).Only Step.Unframed := by
  unfold ip
  split
  · exact only_stopped _
  · split
    · exact unframed_ipv4 data offset
    · exact unframed_ipv6 data offset
    · exact .after_one trivial only_complete

/-- The payload of a link layer or GRE header does not tell the framing. -/
theorem unframed_etherType (type : EtherType) :
    (etherType type data offset).Only Step.Unframed := by
  cases type with
  | ipv4 => exact unframed_ipv4 data offset
  | ipv6 => exact unframed_ipv6 data offset
  | arp | rarp => exact (plain_arp data offset).unframed
  | ipx => exact (plain_fixed data offset .ipx _).unframed
  | _ => exact only_ends _

end Unframed

end Reading

end FrameSpans
