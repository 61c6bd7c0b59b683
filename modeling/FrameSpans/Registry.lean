import FrameSpans.Handler

/-!
# Registries

A registry attaches handlers to the ids of headers. Several handlers may share an id; they are asked
in the order in which they were registered. There is room for `maxHandlers` of them.
-/

namespace FrameSpans

/-- The number of handlers a registry has room for. -/
def maxHandlers : Nat := 16

/-- Handlers and the ids they are attached to. -/
structure Registry where
  /-- The handlers in the order of their registration. -/
  entries : List (ProtocolId × Handler) := []
  /-- No registry holds more handlers than it has room for. -/
  length_le : entries.length ≤ maxHandlers := by decide

namespace Registry

/-- The registry without handlers. -/
def empty : Registry := {}

/-- The number of handlers. -/
def size (registry : Registry) : Nat :=
  registry.entries.length

/-- Whether there are no handlers. -/
def isEmpty (registry : Registry) : Bool :=
  registry.size == 0

/-- Attaches a handler to an id. -/
def register (registry : Registry) (id : ProtocolId) (handler : Handler) :
    Except Error Registry :=
  if room : registry.entries.length < maxHandlers then
    .ok ⟨registry.entries ++ [(id, handler)], by rw [List.length_append]; exact room⟩
  else .error .exhausted

/-- Attaches handlers one after the other. The first failure ends it; what was attached before
stays. -/
def registerAll (registry : Registry) :
    List (ProtocolId × Handler) → Registry × Except Error Unit
  | [] => (registry, .ok ())
  | (id, handler) :: rest =>
    match registry.register id handler with
    | .ok extended => extended.registerAll rest
    | .error error => (registry, .error error)

/-- The handlers attached to an id, each with the number of its slot. -/
def handlers (registry : Registry) (id : ProtocolId) : List (Nat × Handler) :=
  registry.entries.zipIdx.filterMap fun (entry, slot) =>
    if entry.1 = id then some (slot, entry.2) else none

/-- The text shown for a registry in diagnostics: the ids that handlers are attached to. -/
def describe (registry : Registry) : String :=
  let ids := registry.entries.map fun entry => "ProtocolId(" ++ toString entry.1.raw ++ ")"
  "[" ++ ", ".intercalate ids ++ "]"

end Registry

end FrameSpans
