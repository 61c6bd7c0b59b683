import FrameSpans.Bitmask

/-!
# Members of a set of ordinals

A set contains an ordinal if the bit in that place is set (`Bitmask.contains_iff_testBit`), so adding
an id adds its ordinal and nothing else (`Bitmask.contains_insert`). The class of the id plays no
part in it: ids of two classes with the same ordinal are the same member.
-/

namespace FrameSpans.Bitmask

/-- The bit of an id has the place that its ordinal tells. -/
theorem toNat_bit (id : ProtocolId) : (bit id).toNat = 1 <<< id.ordinal.val := by
  have small := id.ordinal.isLt
  have place : (UInt32.ofNat id.ordinal.val).toNat = id.ordinal.val :=
    UInt32.toNat_ofNat_of_lt' (Nat.lt_trans small (by decide))
  have fits : 2 ^ id.ordinal.val < 2 ^ 32 := Nat.pow_lt_pow_right (by decide) small
  rw [bit, UInt32.toNat_shiftLeft, place, Nat.mod_eq_of_lt small]
  show 1 <<< id.ordinal.val % 2 ^ 32 = 1 <<< id.ordinal.val
  rw [Nat.one_shiftLeft, Nat.mod_eq_of_lt fits]

/-- A number shares no bit with a single one if its own bit in that place is not set. -/
theorem and_one_shiftLeft_eq_zero_iff (bits place : Nat) :
    bits &&& 1 <<< place = 0 ↔ bits.testBit place = false := by
  rw [Nat.one_shiftLeft]
  constructor
  · intro none
    have there := congrArg (Nat.testBit · place) none
    simpa [Nat.testBit_and, Nat.testBit_two_pow] using there
  · intro clear
    refine Nat.eq_of_testBit_eq fun other => ?_
    rw [Nat.testBit_and, Nat.testBit_two_pow, Nat.zero_testBit]
    by_cases same : place = other
    · rw [← same, clear, Bool.false_and]
    · rw [decide_eq_false same, Bool.and_false]

/-- A set contains an ordinal if the bit in its place is set. -/
theorem contains_iff_testBit (mask : Bitmask) (id : ProtocolId) :
    mask.contains id = true ↔ mask.bits.toNat.testBit id.ordinal.val = true := by
  have none : mask.bits &&& bit id = 0 ↔ (mask.bits &&& bit id).toNat = 0 :=
    UInt32.toNat_inj.symm
  rw [contains, bne_iff_ne, ne_eq, none, UInt32.toNat_and, toNat_bit,
    and_one_shiftLeft_eq_zero_iff, Bool.not_eq_false]

/-- A set with an id added contains the ordinal of that id, and what it contained before. -/
theorem contains_insert (mask : Bitmask) (added id : ProtocolId) :
    (mask.insert added).contains id = true ↔
      mask.contains id = true ∨ added.ordinal = id.ordinal := by
  rw [contains_iff_testBit, contains_iff_testBit, insert, UInt32.toNat_or, toNat_bit,
    Nat.testBit_or, Nat.one_shiftLeft, Nat.testBit_two_pow, Bool.or_eq_true, decide_eq_true_iff,
    Fin.val_inj]

/-- The full set contains every ordinal. -/
theorem contains_all (id : ProtocolId) : all.contains id = true := by
  have each : ∀ ordinal : Fin 32, (2 ^ 32 - 1).testBit ordinal.val = true := by decide
  rw [contains_iff_testBit]
  exact each id.ordinal

end FrameSpans.Bitmask
