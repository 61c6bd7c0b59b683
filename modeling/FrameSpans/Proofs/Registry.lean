import FrameSpans.Tunnel

/-!
# What a registry holds

A registry has room for `maxHandlers` handlers. Whoever fills it attaches single handlers or all
tunnel handlers at once (`Registration`), and need not stop at a failure. However it is filled, it
holds the first handlers that were to be attached, as many as it has room for
(`Registry.entries_after`). A registration succeeds exactly if all of its handlers found room
(`Registry.result_perform_after`), and one that comes when the registry is full changes nothing
(`Registry.perform_of_full`).

The handlers of an id are those in its slots, in the order of their registration
(`Registry.slots_handlers`).
-/

namespace FrameSpans

/-! ## Filling a registry -/

/-- What handlers are to be attached. -/
inductive Registration
  /-- One handler, to an id. -/
  | single (id : ProtocolId) (handler : Handler)
  /-- All tunnel handlers. -/
  | tunnels

/-- The handlers of a registration, in the order in which they are to be attached. -/
def Registration.entries : Registration → List (ProtocolId × Handler)
  | .single id handler => [(id, handler)]
  | .tunnels => Tunnel.handlers

namespace Registry

/-- What a registration makes of a registry, and whether it succeeds. -/
def perform (registry : Registry) : Registration → Registry × Except Error Unit
  | .single id handler =>
    match registry.register id handler with
    | .ok extended => (extended, .ok ())
    | .error error => (registry, .error error)
  | .tunnels => registry.registerAll Tunnel.handlers

/-- What registrations make of a registry, those that fail included. -/
def after (registry : Registry) (registrations : List Registration) : Registry :=
  registrations.foldl (fun filled registration => (filled.perform registration).1) registry

/-- A single handler is attached like a list of one handler. -/
theorem perform_eq (registry : Registry) (registration : Registration) :
    registry.perform registration = registry.registerAll registration.entries := by
  cases registration with
  | single id handler =>
    rw [perform, Registration.entries, registerAll]
    cases registry.register id handler with
    | ok extended => rfl
    | error error => rfl
  | tunnels => rfl

/-- Nothing is attached to a full registry. -/
theorem register_of_full {registry : Registry} (full : maxHandlers ≤ registry.entries.length)
    (id : ProtocolId) (handler : Handler) :
    registry.register id handler = .error .exhausted :=
  dif_neg (Nat.not_lt.mpr full)

/-- Attaching handlers one after the other attaches as many of them as there is room for, and fails
if that is not all of them. -/
theorem registerAll_spec (registry : Registry) (added : List (ProtocolId × Handler)) :
    (registry.registerAll added).1.entries = (registry.entries ++ added).take maxHandlers ∧
      (registry.registerAll added).2 =
        if registry.entries.length + added.length ≤ maxHandlers then .ok ()
        else .error .exhausted := by
  induction added generalizing registry with
  | nil =>
    rw [List.append_nil, List.take_of_length_le registry.length_le, List.length_nil, Nat.add_zero,
      if_pos registry.length_le]
    exact ⟨rfl, rfl⟩
  | cons entry rest ih =>
    obtain ⟨id, handler⟩ := entry
    by_cases room : registry.entries.length < maxHandlers
    · obtain ⟨extended, attached, entries⟩ : ∃ extended : Registry,
          registry.register id handler = .ok extended ∧
            extended.entries = registry.entries ++ [(id, handler)] :=
        ⟨_, dif_pos room, rfl⟩
      have count : extended.entries.length + rest.length =
          registry.entries.length + ((id, handler) :: rest).length := by
        rw [entries, List.length_append, List.length_singleton, List.length_cons]
        omega
      obtain ⟨held, result⟩ := ih extended
      rw [registerAll, attached]
      dsimp only
      rw [held, result, count, entries, List.append_assoc]
      exact ⟨rfl, rfl⟩
    · have full : maxHandlers ≤ registry.entries.length := Nat.not_lt.mp room
      have all : registry.entries.length = maxHandlers := Nat.le_antisymm registry.length_le full
      rw [registerAll, register_of_full full]
      dsimp only
      rw [← all, List.take_left, List.length_cons, if_neg (by omega)]
      exact ⟨rfl, rfl⟩

/-- Of handlers behind others, as many are the first ones as of those that were cut off before. -/
theorem take_take_append {α : Type} (count : Nat) (front rear : List α) :
    (front.take count ++ rear).take count = (front ++ rear).take count := by
  have left : count - min count front.length = count - front.length := by omega
  rw [List.take_append, List.take_append, List.take_take, Nat.min_self, List.length_take, left]

/-- Whatever is registered, a registry holds the first handlers that were attached or to be attached,
as many as there is room for. -/
theorem entries_after (registry : Registry) (registrations : List Registration) :
    (registry.after registrations).entries =
      (registry.entries ++ registrations.flatMap Registration.entries).take maxHandlers := by
  induction registrations generalizing registry with
  | nil =>
    rw [List.flatMap_nil, List.append_nil, List.take_of_length_le registry.length_le]
    rfl
  | cons registration rest ih =>
    have first : (registry.perform registration).1.entries =
        (registry.entries ++ registration.entries).take maxHandlers := by
      rw [perform_eq]
      exact (registerAll_spec registry registration.entries).1
    calc (registry.after (registration :: rest)).entries
      _ = ((registry.perform registration).1.after rest).entries := rfl
      _ = ((registry.perform registration).1.entries ++
            rest.flatMap Registration.entries).take maxHandlers := ih _
      _ = (registry.entries ++ (registration :: rest).flatMap Registration.entries).take
            maxHandlers := by
          rw [first, take_take_append, List.append_assoc, List.flatMap_cons]

/-- A registration succeeds exactly if there is room for its handlers behind all those that were to
be attached before. -/
theorem result_perform_after (before : List Registration) (registration : Registration) :
    ((empty.after before).perform registration).2 =
      if (before.flatMap Registration.entries).length + registration.entries.length ≤ maxHandlers
      then .ok ()
      else .error .exhausted := by
  have held : (empty.after before).entries.length =
      min maxHandlers (before.flatMap Registration.entries).length := by
    rw [entries_after, List.length_take]
    rfl
  -- Where some were left out there is no room for one more.
  have some : 0 < registration.entries.length := by
    cases registration with
    | single id handler => exact Nat.one_pos
    | tunnels => decide
  have same : (min maxHandlers (before.flatMap Registration.entries).length +
        registration.entries.length ≤ maxHandlers) =
      ((before.flatMap Registration.entries).length + registration.entries.length ≤ maxHandlers) :=
    propext (by omega)
  rw [perform_eq, (registerAll_spec _ _).2, held]
  simp only [same]

/-- A registration that finds a full registry fails, and leaves it as it was. -/
theorem perform_of_full {registry : Registry} (full : maxHandlers ≤ registry.entries.length)
    (registration : Registration) :
    registry.perform registration = (registry, .error .exhausted) := by
  cases registration with
  | single id handler => rw [perform, register_of_full full]
  | tunnels => rw [perform, Tunnel.handlers, registerAll, register_of_full full]

/-! ## The handlers of an id -/

/-- The slots of the handlers that are attached to an id, in the order of their registration. -/
def slots (entries : List (ProtocolId × Handler)) (id : ProtocolId) : List Nat :=
  (List.range entries.length).filter fun slot => entries[slot]?.map Prod.fst = some id

/-- The handlers of an id are picked from all handlers, which are numbered by their slots. -/
theorem handlers_eq (registry : Registry) (id : ProtocolId) :
    registry.handlers id =
      (registry.entries.zipIdx.filter fun entry => entry.1.1 = id).map fun entry =>
        (entry.2, entry.1.2) := by
  unfold handlers
  induction registry.entries.zipIdx with
  | nil => rfl
  | cons entry rest ih =>
    obtain ⟨⟨key, handler⟩, slot⟩ := entry
    by_cases here : key = id
    · simp only [List.filterMap_cons, List.filter_cons, if_pos here, decide_eq_true here, if_true, ih,
        List.map_cons]
    · simp only [List.filterMap_cons, List.filter_cons, if_neg here, decide_eq_false here,
        Bool.false_eq_true, if_false, ih]

/-- A handler of an id stands in its slot. -/
theorem getElem?_of_mem_handlers {registry : Registry} {id : ProtocolId} {found : Nat × Handler}
    (h : found ∈ registry.handlers id) : registry.entries[found.1]? = some (id, found.2) := by
  rw [handlers_eq] at h
  obtain ⟨entry, chosen, rfl⟩ := List.mem_map.mp h
  obtain ⟨listed, same⟩ := List.mem_filter.mp chosen
  rw [List.mem_zipIdx_iff_getElem?.mp listed, ← of_decide_eq_true same]

/-- The handlers of an id are those in its slots, one for each. -/
theorem slots_handlers (registry : Registry) (id : ProtocolId) :
    (registry.handlers id).map Prod.fst = slots registry.entries id := by
  have same : ∀ entry ∈ registry.entries.zipIdx,
      decide (entry.1.1 = id) = decide (registry.entries[entry.2]?.map Prod.fst = some id) := by
    intro entry listed
    simp only [List.mem_zipIdx_iff_getElem?.mp listed, Option.map_some, Option.some.injEq]
  calc (registry.handlers id).map Prod.fst
    _ = (registry.entries.zipIdx.filter fun entry => entry.1.1 = id).map Prod.snd := by
        rw [handlers_eq, List.map_map]
        rfl
    _ = (registry.entries.zipIdx.filter fun entry =>
          registry.entries[entry.2]?.map Prod.fst = some id).map Prod.snd := by
        rw [List.filter_congr same]
    _ = slots registry.entries id := by
        rw [slots, List.range_eq_range', ← List.zipIdx_map_snd, List.filter_map]
        rfl

end Registry

end FrameSpans
