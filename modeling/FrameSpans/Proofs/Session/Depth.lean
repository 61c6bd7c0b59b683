import FrameSpans.Proofs.Session.Reachable

/-!
# The depth of encapsulation

A dissection counts the encapsulated packets that it is in, and its events tell what it counts: the
depth is one more when a packet is entered and one less when it is left (`Event.depthBehind`). Every
packet that is entered is left again, whether it ends or is cut short and whatever the handlers ask
for, so a dissection restores the depth. On the way the depth is never less than at first, and never
more than the policy allows (`Dissector.RestoresDepth`).

The bounds are kept by events in a row (`InDepth.append`), and a packet adds two events around
others that start one deeper (`InDepth.nested`). As every dissection is an evolution, the induction
is the one over evolutions (`Evolves.inDepth`).
-/

namespace FrameSpans

/-! ## Events that count -/

/-- The depth behind an event. -/
def Event.depthBehind (depth : Nat) : Event → Nat
  | .entered _ => depth + 1
  | .left => depth - 1
  | _ => depth

/-- The depth behind events. -/
def depthBehind (depth : Nat) (events : List Event) : Nat :=
  events.foldl Event.depthBehind depth

/-- What an event tells of the depth is so: a packet that is entered is one deeper than what is
around it, and one is left aside only at the greatest depth. -/
def Event.TellsDepth (greatest depth : Nat) : Event → Prop
  | .entered inside => inside = depth + 1
  | .depthReached reached => reached = depth ∧ depth = greatest
  | _ => True

/-- Behind events in a row the depth is that behind the second ones. -/
theorem depthBehind_append (depth : Nat) (events more : List Event) :
    depthBehind depth (events ++ more) = depthBehind (depthBehind depth events) more :=
  List.foldl_append

/-- A packet that is left leaves the depth that it found. -/
theorem depthBehind_nested {depth inside : Nat} {events : List Event}
    (h : depthBehind (depth + 1) events = depth + 1) :
    depthBehind depth (.entered inside :: events ++ [.left]) = depth := by
  rw [depthBehind_append]
  show depthBehind (depthBehind (depth + 1) events) [.left] = depth
  rw [h]
  rfl

/-- A notice does not count, and tells nothing of the depth. -/
theorem Event.tellsDepth_of_notice {event : Event} (h : event.IsNotice) (greatest depth : Nat) :
    event.depthBehind depth = depth ∧ event.TellsDepth greatest depth := by
  cases event with
  | entered | left | depthReached => exact h.elim
  | _ => exact ⟨rfl, trivial⟩

/-! ## Bounds -/

/-- While these events happen, from the given depth on, the depth stays within bounds, and is what
they tell. -/
def InDepth (least greatest : Nat) : Nat → List Event → Prop
  | depth, [] => least ≤ depth ∧ depth ≤ greatest
  | depth, event :: rest =>
    (least ≤ depth ∧ depth ≤ greatest) ∧ event.TellsDepth greatest depth ∧
      InDepth least greatest (event.depthBehind depth) rest

namespace InDepth

variable {least greatest depth : Nat} {events more : List Event}

/-- The bounds hold at first. -/
theorem start (h : InDepth least greatest depth events) : least ≤ depth ∧ depth ≤ greatest := by
  cases events with
  | nil => exact h
  | cons event rest => exact h.1

/-- An event that does not count stays within bounds. -/
theorem one {event : Event} (bounds : least ≤ depth ∧ depth ≤ greatest)
    (still : event.depthBehind depth = depth) (tells : event.TellsDepth greatest depth) :
    InDepth least greatest depth [event] := by
  refine ⟨bounds, tells, ?_⟩
  rw [still]
  exact bounds

/-- Events in a row stay within bounds if each part of them does. -/
theorem append_iff : InDepth least greatest depth (events ++ more) ↔
    InDepth least greatest depth events ∧
      InDepth least greatest (depthBehind depth events) more := by
  induction events generalizing depth with
  | nil => exact ⟨fun h => ⟨h.start, h⟩, fun h => h.2⟩
  | cons event rest ih =>
    constructor
    · rintro ⟨bounds, tells, behind⟩
      obtain ⟨front, rear⟩ := ih.mp behind
      exact ⟨⟨bounds, tells, front⟩, rear⟩
    · rintro ⟨⟨bounds, tells, front⟩, rear⟩
      exact ⟨bounds, tells, ih.mpr ⟨front, rear⟩⟩

/-- Bounds may be wider. -/
theorem mono {lower : Nat} (wider : lower ≤ least) (h : InDepth least greatest depth events) :
    InDepth lower greatest depth events := by
  induction events generalizing depth with
  | nil => exact ⟨Nat.le_trans wider h.1, h.2⟩
  | cons event rest ih =>
    obtain ⟨⟨least, greatest⟩, tells, behind⟩ := h
    exact ⟨⟨Nat.le_trans wider least, greatest⟩, tells, ih behind⟩

/-- What happens in a packet stays within bounds around it, if the packet restores the depth. -/
theorem nested (h : InDepth (depth + 1) greatest (depth + 1) events)
    (restored : depthBehind (depth + 1) events = depth + 1) :
    InDepth depth greatest depth (.entered (depth + 1) :: events ++ [.left]) := by
  have below : depth + 1 ≤ greatest := h.start.2
  have around : depth ≤ depth ∧ depth ≤ greatest := ⟨Nat.le_refl depth, Nat.le_of_succ_le below⟩
  refine ⟨around, rfl, append_iff.mpr ⟨h.mono (Nat.le_succ depth), ?_⟩⟩
  show InDepth depth greatest (depthBehind (depth + 1) events) [.left]
  rw [restored]
  exact ⟨⟨Nat.le_succ depth, below⟩, trivial, around⟩

end InDepth

/-! ## Evolutions -/

/-- An evolution restores the depth, and stays within bounds on the way. -/
theorem Evolves.inDepth {d d' : Dissector} {events : List Event} (h : Evolves d events d')
    (level : d.depth ≤ d.config.maxDepth.toNat) :
    depthBehind d.depth events = d.depth ∧
      InDepth d.depth d.config.maxDepth.toNat d.depth events := by
  have bounds {d : Dissector} (level : d.depth ≤ d.config.maxDepth.toNat) :
      d.depth ≤ d.depth ∧ d.depth ≤ d.config.maxDepth.toNat := ⟨Nat.le_refl _, level⟩
  induction h with
  | nothing | framing => exact ⟨rfl, bounds level⟩
  | notice d notice =>
    obtain ⟨still, tells⟩ := Event.tellsDepth_of_notice notice d.config.maxDepth.toNat d.depth
    exact ⟨still, .one (bounds level) still tells⟩
  | store | refuse | widen | keep | fragment => exact ⟨rfl, .one (bounds level) rfl trivial⟩
  | exhausted reached =>
    exact ⟨rfl, .one (bounds level) rfl ⟨rfl, Nat.le_antisymm level reached⟩⟩
  | nested below inner ih =>
    obtain ⟨restored, within⟩ := ih below
    exact ⟨depthBehind_nested restored, within.nested restored⟩
  | @append d d₁ d₂ events more first second ih₁ ih₂ =>
    -- The second part starts in the depth that the first one restored.
    obtain ⟨restored, within⟩ := ih₁ level
    rw [first.keeps.config_eq, first.keeps.depth_eq] at ih₂
    obtain ⟨restored', within'⟩ := ih₂ level
    refine ⟨by rw [depthBehind_append, restored, restored'], InDepth.append_iff.mpr ⟨within, ?_⟩⟩
    rw [restored]
    exact within'

/-! ## Dissections -/

namespace Dissector

/-- What a dissection comes to restores the depth: behind each part of what happened the depth was
no less than at first and no more than the policy allows, and it was what the events tell. -/
structure RestoresDepth (d : Dissector) (traced : Traced) : Prop where
  /-- The depth of the dissector is what it was. -/
  depth_eq : traced.1.depth = d.depth
  /-- The events leave the depth that they found. -/
  restored : depthBehind d.depth traced.2 = d.depth
  /-- On the way the depth stays within bounds. -/
  within : ∀ front rear, traced.2 = front ++ rear →
    d.depth ≤ depthBehind d.depth front ∧ depthBehind d.depth front ≤ d.config.maxDepth.toNat
  /-- On the way the depth is what the events tell. -/
  told : ∀ front event rear, traced.2 = front ++ event :: rear →
    event.TellsDepth d.config.maxDepth.toNat (depthBehind d.depth front)

/-- An evolution restores the depth. -/
theorem RestoresDepth.of_evolves {d : Dissector} {traced : Traced}
    (h : Evolves d traced.2 traced.1) (level : d.depth ≤ d.config.maxDepth.toNat) :
    d.RestoresDepth traced := by
  obtain ⟨restored, within⟩ := h.inDepth level
  refine ⟨h.keeps.depth_eq, restored, fun front rear split => ?_, fun front event rear split => ?_⟩
  · rw [split] at within
    exact (InDepth.append_iff.mp within).2.start
  · rw [split] at within
    exact (InDepth.append_iff.mp within).2.2.1

/-- At the greatest depth an encapsulated packet is left aside. -/
theorem dissectInner_of_deepest {d : Dissector} (deepest : d.depth = d.config.maxDepth.toNat)
    (inner : Encapsulation) (data : Octets) (offset : Nat) :
    d.dissectInner inner data offset = (d, [.depthReached d.depth]) := by
  have left : d.levelsLeft = 0 := by
    rw [levelsLeft, deepest, Nat.sub_self]
  rw [dissectInner, left]
  rfl

/-- Whatever the policy, the octets and the handlers, dissecting a capture or an encapsulated packet
comes to an end and restores the depth, within bounds on the way. At the greatest depth an
encapsulated packet changes nothing. Between any two operations of a session the depth is zero. -/
theorem depth_restored (d : Dissector) (level : d.depth ≤ d.config.maxDepth.toNat) :
    (∀ (buffer : Octets) (captureLength wireLength : Nat) (timestamp : UInt64),
      captureLength ≤ buffer.size → captureLength ≤ wireLength →
        ∃ traced, d.dissect buffer captureLength wireLength timestamp = .ok traced ∧
          d.RestoresDepth traced) ∧
      (∀ (inner : Encapsulation) (data : Octets) (offset : Nat),
        d.RestoresDepth (d.dissectInner inner data offset)) ∧
      (d.depth = d.config.maxDepth.toNat →
        ∀ (inner : Encapsulation) (data : Octets) (offset : Nat),
          d.dissectInner inner data offset = (d, [.depthReached d.depth])) ∧
      ∀ (config : Config) (registry : Option Registry) (operations : List Operation),
        ((Session.start config registry).run operations).dissector.depth = 0 := by
  refine ⟨?_, ?_, dissectInner_of_deepest, ?_⟩
  · intro buffer captureLength wireLength timestamp held wired
    have dissected := d.dissect_held held wired timestamp
    obtain ⟨-, -, evolved⟩ := evolves_dissect dissected
    obtain ⟨depth, restored, within, told⟩ := RestoresDepth.of_evolves evolved level
    exact ⟨_, dissected, depth, restored, within, told⟩
  · exact fun inner data offset => .of_evolves (d.evolves_dissectInner inner data offset) level
  · exact fun config registry operations =>
      (Session.wellFormed_run config registry operations).depth_eq

/-- IP in IP in IP, of which the innermost header is cut short. Both packets inside are left again;
if only one may be entered, the other one is left aside. -/
theorem depth_restored_ip_in_ip :
    let buffer : Octets :=
      #[0x45, 0, 0, 60, 0, 0, 0, 0, 64, 4, 0, 0, 10, 0, 0, 1, 10, 0, 0, 2,
        0x45, 0, 0, 40, 0, 0, 0, 0, 64, 4, 0, 0, 10, 0, 0, 3, 10, 0, 0, 4,
        0x45, 0, 0, 20]
    let deep : Dissector := { config := { link := .rawIp, maxDepth := 2 } }
    let shallow : Dissector := { config := { link := .rawIp, maxDepth := 1 } }
    let outer : List Event := [.stored ⟨.ipv4, 0, 20⟩, .payload .ipInIp 20 .ipv4, .entered 1,
      .stored ⟨.ipv4, 20, 20⟩, .payload .ipInIp 40 .ipv4]
    (deep.depth ≤ deep.config.maxDepth.toNat ∧
      ∃ traced, deep.dissect buffer 44 60 0 = .ok traced ∧ deep.RestoresDepth traced ∧
        traced.2 = outer ++ [.entered 2, .left, .left, .stopped (.capture 44) .truncated]) ∧
    (shallow.depth ≤ shallow.config.maxDepth.toNat ∧
      ∃ traced, shallow.dissect buffer 44 60 0 = .ok traced ∧ shallow.RestoresDepth traced ∧
        traced.2 = outer ++ [.depthReached 1, .left]) := by
  intro buffer deep shallow outer
  have held : 44 ≤ buffer.size := by decide
  have wired : 44 ≤ 60 := by decide
  have level : deep.depth ≤ deep.config.maxDepth.toNat := by decide
  have level' : shallow.depth ≤ shallow.config.maxDepth.toNat := by decide
  have told : (deep.dissect buffer 44 60 0).toOption.map Prod.snd =
      some (outer ++ [.entered 2, .left, .left, .stopped (.capture 44) .truncated]) := by
    decide +kernel
  have told' : (shallow.dissect buffer 44 60 0).toOption.map Prod.snd =
      some (outer ++ [.depthReached 1, .left]) := by
    decide +kernel
  obtain ⟨traced, dissected, restores⟩ := (depth_restored deep level).1 buffer 44 60 0 held wired
  obtain ⟨traced', dissected', restores'⟩ :=
    (depth_restored shallow level').1 buffer 44 60 0 held wired
  rw [dissected] at told
  rw [dissected'] at told'
  exact ⟨⟨level, traced, dissected, restores, Option.some.inj told⟩,
    level', traced', dissected', restores', Option.some.inj told'⟩

end Dissector

end FrameSpans
