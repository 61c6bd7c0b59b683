import FrameSpans.Proofs.Reading.Truncation
import Mathlib.Algebra.GroupWithZero.Nat

/-!
# The options of a header as a parse of their octets

The options of an IPv4 or TCP header stand between its fixed part and its end. Seen from the octets
of this area alone they are a list: an option of kind 0 or 1 is one octet, every other option tells
its length in its second octet, and the list goes on as long as a whole option is left.
`HeaderOption.parse` reads off this list. It is given the octets of the area and nothing else.

The scan of a header looks at the whole capture, and for an option of which only the kind stands in
the area it reads the octet behind the area as a length. No length it may find there lets the option
fit, so the scan is the parse (`HeaderOption.scan_eq_parse`) and no octet outside the area counts.
-/

namespace FrameSpans.HeaderOption

/-! ## The parse of an area -/

/-- The kind and the length of the option at the start of an area, if all of it is there. -/
def first? : List UInt8 → Option (UInt8 × Nat)
  | [] => none
  | kind :: rest =>
    if kind = 0 ∨ kind = 1 then some (kind, 1)
    else
      match rest with
      | [] => none
      | told :: body =>
        if 2 ≤ told.toNat ∧ told.toNat ≤ body.length + 2 then some (kind, told.toNat) else none

/-- An option of the first two kinds is one octet. -/
theorem first?_of_single {kind : UInt8} (single : kind = 0 ∨ kind = 1) (rest : List UInt8) :
    first? (kind :: rest) = some (kind, 1) :=
  if_pos single

/-- An option of any other kind has the length in its second octet, if so many octets are left. -/
theorem first?_of_several {kind : UInt8} (several : ¬(kind = 0 ∨ kind = 1)) (told : UInt8)
    (body : List UInt8) :
    first? (kind :: told :: body) =
      if 2 ≤ told.toNat ∧ told.toNat ≤ body.length + 2 then some (kind, told.toNat) else none :=
  if_neg several

/-- The first option of an area is not empty and lies within the area, which starts with its
kind. -/
theorem of_first? {area : List UInt8} {kind : UInt8} {length : Nat}
    (h : first? area = some (kind, length)) :
    0 < length ∧ length ≤ area.length ∧ area[0]? = some kind := by
  unfold first? at h
  split at h
  · cases h
  · split at h
    · cases h
      exact ⟨Nat.one_pos, by simp, rfl⟩
    · split at h
      · cases h
      · split at h
        · next valid =>
          cases h
          exact ⟨by omega, by simpa using valid.2, rfl⟩
        · cases h

/-- The options of an area whose first octet stands at `offset`. -/
def parse (offset : Nat) (area : List UInt8) : List HeaderOption :=
  match _found : first? area with
  | none => []
  | some (kind, length) =>
    ⟨kind, offset, length⟩ :: parse (offset + length) (area.drop length)
termination_by area.length
decreasing_by
  obtain ⟨pos, inside, -⟩ := of_first? _found
  rw [List.length_drop]
  omega

/-- The parse of an area without the proof that it ends. -/
theorem parse_eq (offset : Nat) (area : List UInt8) :
    parse offset area =
      match first? area with
      | none => []
      | some (kind, length) =>
        ⟨kind, offset, length⟩ :: parse (offset + length) (area.drop length) := by
  rw [parse]
  split <;> simp only [*]

/-- Options stand one behind the other from `start` on and do not pass `stop`. -/
def Tile (stop : Nat) : Nat → List HeaderOption → Prop
  | start, [] => start ≤ stop
  | start, option :: rest =>
    option.offset = start ∧ 0 < option.length ∧ Tile stop (start + option.length) rest

/-- The options of an area stand one behind the other within the area. -/
theorem tile_parse (offset : Nat) (area : List UInt8) :
    Tile (offset + area.length) offset (parse offset area) := by
  rw [parse_eq]
  cases found : first? area with
  | none => exact Nat.le_add_right ..
  | some option =>
    obtain ⟨kind, length⟩ := option
    obtain ⟨pos, inside, -⟩ := of_first? found
    have rest := tile_parse (offset + length) (area.drop length)
    have stop : offset + length + (area.drop length).length = offset + area.length := by
      rw [List.length_drop]
      omega
    rw [stop] at rest
    exact ⟨rfl, pos, rest⟩
termination_by area.length
decreasing_by
  rw [List.length_drop]
  omega

section Tile

variable {stop start : Nat}

/-- Options that do not pass the end start before it. -/
theorem Tile.start_le {options : List HeaderOption} (h : Tile stop start options) :
    start ≤ stop := by
  induction options generalizing start with
  | nil => exact h
  | cons option rest ih =>
    obtain ⟨-, -, behind⟩ := h
    exact Nat.le_trans (Nat.le_add_right ..) (ih behind)

/-- Each of the options that stand one behind the other starts where those before it end, and none
of them passes the end. -/
theorem Tile.of_append {front rest : List HeaderOption} {option : HeaderOption}
    (h : Tile stop start (front ++ option :: rest)) :
    option.offset = start + (front.map (·.length)).sum ∧ 0 < option.length ∧
      option.offset + option.length ≤ stop := by
  induction front generalizing start with
  | nil =>
    obtain ⟨here, pos, behind⟩ := h
    refine ⟨here, pos, ?_⟩
    rw [here]
    exact behind.start_le
  | cons before front ih =>
    obtain ⟨-, -, behind⟩ := h
    obtain ⟨here, pos, inside⟩ := ih behind
    refine ⟨?_, pos, inside⟩
    rw [here, List.map_cons, List.sum_cons, Nat.add_assoc]

end Tile

/-! ## The scan of a header -/

/-- The octets of a header from the position of an option up to the end of the header. -/
def area (data : Octets) (offset stop : Nat) : List UInt8 :=
  (data.extract offset stop).toList

section Area

variable {data : Octets} {offset stop : Nat}

/-- Nothing stands in an area behind its end. -/
theorem area_of_le (behind : stop ≤ offset) : area data offset stop = [] := by
  refine List.eq_nil_of_length_eq_zero ?_
  simp only [area, Array.length_toList, Array.size_extract]
  omega

/-- An area starts with the octet at its start. -/
theorem area_of_lt (before : offset < stop) {octet : UInt8}
    (captured : data.octet? offset = some octet) :
    area data offset stop = octet :: area data (offset + 1) stop := by
  obtain ⟨bound, found⟩ := Array.getElem?_eq_some_iff.mp captured
  have length : offset < data.toList.length := bound
  have more : stop - offset = stop - (offset + 1) + 1 := by omega
  simp only [area, Array.toList_extract, List.extract_eq_take_drop]
  rw [List.drop_eq_getElem_cons length, more, List.take_succ_cons, Array.getElem_toList, found]

/-- The number of octets of an area. -/
theorem length_area (inside : stop ≤ data.size) :
    (area data offset stop).length = stop - offset := by
  simp only [area, Array.length_toList, Array.size_extract, Nat.min_eq_left inside]

/-- An area without its first octets is the area behind them. -/
theorem drop_area (length : Nat) :
    (area data offset stop).drop length = area data (offset + length) stop := by
  simp only [area, Array.toList_extract, List.extract_eq_take_drop, List.drop_take, List.drop_drop]
  congr 1
  omega

end Area

/-- The kinds that are single octets are the first two. -/
theorem isSingleOctet_iff (kind : UInt8) : isSingleOctet kind = true ↔ kind = 0 ∨ kind = 1 := by
  rw [isSingleOctet, decide_eq_true_iff, UInt8.le_iff_toNat_le, ← UInt8.toNat_inj,
    ← UInt8.toNat_inj]
  show kind.toNat ≤ 1 ↔ kind.toNat = 0 ∨ kind.toNat = 1
  omega

/-- An option of several octets has the length that its second octet tells, if that is at least
two. -/
theorem length?_of_second {data : Octets} {offset : Nat} {kind told : UInt8}
    (long : isSingleOctet kind = false) (second : data.octet? (offset + 1) = some told)
    (roomy : data.size + overhang < offsetBound) :
    length? data offset kind = .ok (if 2 ≤ told.toNat then some told.toNat else none) := by
  have inside : offset + 1 < data.size := (Array.getElem?_eq_some_iff.mp second).1
  have sum : advance offset 1 = .ok (offset + 1) := if_pos (by omega)
  rw [length?, if_neg (Bool.eq_false_iff.mp long), sum]
  dsimp only
  rw [second]
  rfl

/-- An option that tells its length is listed, and the scan goes on behind it, unless it passes the
end of the header. -/
theorem scan_of_length? {data : Octets} {offset stop length : Nat} {kind : UInt8}
    (before : offset < stop) (captured : data.octet? offset = some kind)
    (told : length? data offset kind = .ok (some length))
    (sum : advance offset length = .ok (offset + length)) :
    scan data offset stop =
      if stop < offset + length then .ok []
      else (scan data (offset + length) stop).map (⟨kind, offset, length⟩ :: ·) := by
  rw [scan_eq, if_pos before, captured]
  dsimp only
  rw [told]
  dsimp only
  rw [sum]

/-- What a scan does with the first option of an area: it lists it and goes on behind it. -/
theorem scan_step {data : Octets} {offset stop : Nat} (inside : stop ≤ data.size)
    (roomy : data.size + overhang < offsetBound) :
    scan data offset stop =
      match first? (area data offset stop) with
      | none => .ok []
      | some (kind, length) =>
        (scan data (offset + length) stop).map (⟨kind, offset, length⟩ :: ·) := by
  have sum (length : Nat) (short : length ≤ overhang) (before : offset < stop) :
      advance offset length = .ok (offset + length) := if_pos (by omega)
  by_cases before : offset < stop
  · obtain ⟨kind, captured⟩ : ∃ kind, data.octet? offset = some kind :=
      ⟨_, Array.getElem?_eq_getElem (Nat.lt_of_lt_of_le before inside)⟩
    rw [area_of_lt before captured]
    by_cases single : kind = 0 ∨ kind = 1
    · have told : length? data offset kind = .ok (some 1) :=
        if_pos ((isSingleOctet_iff kind).mpr single)
      rw [scan_of_length? before captured told (sum 1 (by decide) before), if_neg (by omega),
        first?_of_single single]
    · have long : isSingleOctet kind = false :=
        Bool.eq_false_iff.mpr fun set => single ((isSingleOctet_iff kind).mp set)
      by_cases last : stop = offset + 1
      · -- The octet behind the area is read as a length, but no length lets the option fit.
        subst last
        rw [scan_last data captured long (by omega), area_of_le (Nat.le_refl _), first?,
          if_neg single]
      · have next : offset + 1 < stop := by omega
        obtain ⟨told, second⟩ : ∃ told, data.octet? (offset + 1) = some told :=
          ⟨_, Array.getElem?_eq_getElem (Nat.lt_of_lt_of_le next inside)⟩
        have rest : (area data (offset + 1 + 1) stop).length = stop - (offset + 2) :=
          length_area inside
        have length := length?_of_second long second roomy
        rw [area_of_lt next second, first?_of_several single, rest]
        by_cases valid : 2 ≤ told.toNat
        · rw [if_pos valid] at length
          have short : told.toNat ≤ overhang := by
            have bound := told.toNat_lt
            rw [overhang]
            omega
          rw [scan_of_length? before captured length (sum told.toNat short before)]
          -- An option that passes the end of the header is one that the area does not hold.
          by_cases passes : stop < offset + told.toNat
          · rw [if_pos passes, if_neg (by omega)]
          · rw [if_neg passes, if_pos (by omega)]
        · rw [if_neg valid] at length
          rw [scan_eq, if_pos before, captured]
          dsimp only
          rw [length, if_neg fun both => valid both.1]
  · rw [scan_eq, if_neg before, area_of_le (by omega)]
    rfl

/-- The scan of a header is the parse of its option area. -/
theorem scan_eq_parse {data : Octets} {offset stop : Nat} (inside : stop ≤ data.size)
    (roomy : data.size + overhang < offsetBound) :
    scan data offset stop = .ok (parse offset (area data offset stop)) := by
  rw [scan_step inside roomy, parse_eq]
  cases found : first? (area data offset stop) with
  | none => rfl
  | some option =>
    obtain ⟨kind, length⟩ := option
    obtain ⟨pos, within, -⟩ := of_first? found
    have shorter : stop - (offset + length) < stop - offset := by
      rw [length_area inside] at within
      omega
    dsimp only
    rw [scan_eq_parse inside roomy, drop_area]
    rfl
termination_by stop - offset
decreasing_by omega

/-- The first octet of an option is its kind. -/
theorem octet?_of_mem_parse {data : Octets} {offset stop : Nat} (inside : stop ≤ data.size)
    {option : HeaderOption} (h : option ∈ parse offset (area data offset stop)) :
    data.octet? option.offset = some option.kind := by
  rw [parse_eq] at h
  cases found : first? (area data offset stop) with
  | none =>
    rw [found] at h
    cases h
  | some first =>
    obtain ⟨kind, length⟩ := first
    obtain ⟨pos, within, starts⟩ := of_first? found
    have before : offset < stop ∧ stop - (offset + length) < stop - offset := by
      rw [length_area inside] at within
      omega
    rw [found] at h
    rcases List.mem_cons.mp h with rfl | later
    · obtain ⟨octet, captured⟩ : ∃ octet, data.octet? offset = some octet :=
        ⟨_, Array.getElem?_eq_getElem (by omega)⟩
      rw [area_of_lt before.1 captured] at starts
      rw [captured]
      exact starts
    · rw [drop_area] at later
      exact octet?_of_mem_parse inside later
termination_by stop - offset
decreasing_by omega

end FrameSpans.HeaderOption
