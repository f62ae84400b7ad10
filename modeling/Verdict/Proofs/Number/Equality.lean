import Mathlib
import Verdict.Number.Basic

/-! Equality of values read off the bits. A NaN has no value that equals it, and two numbers that
are no NaN have the same value when their canonical bits are equal. -/

set_option autoImplicit false

namespace Verdict

namespace Number

open Float.Model

theorem toNat_magnitudeBits (number : Number) :
    number.magnitudeBits.toNat = number.bits.toNat % 2 ^ 63 := by
  rw [magnitudeBits, UInt64.toNat_and]
  exact Nat.and_two_pow_sub_one_eq_mod number.bits.toNat 63

theorem isNaN_iff {number : Number} :
    number.isNaN = true ↔ 0x7FF0000000000000 < number.bits.toNat % 2 ^ 63 := by
  rw [isNaN, decide_eq_true_iff, UInt64.lt_iff_toNat_lt, toNat_magnitudeBits]
  rfl

theorem isFinite_iff {number : Number} :
    number.isFinite = true ↔ number.bits.toNat % 2 ^ 63 < 0x7FF0000000000000 := by
  rw [isFinite, decide_eq_true_iff, UInt64.lt_iff_toNat_lt, toNat_magnitudeBits]
  rfl

theorem isZero_iff {number : Number} :
    number.isZero = true ↔ number = zero ∨ number = zero.negate := by
  obtain ⟨bits⟩ := number
  have bound := bits.toNat_lt
  have words : bits = 0 ∨ bits = 0x8000000000000000 ↔ bits.toNat % 2 ^ 63 = 0 := by
    rw [← UInt64.toNat_inj, ← UInt64.toNat_inj]
    change _ = 0 ∨ _ = 0x8000000000000000 ↔ _
    omega
  rw [isZero, beq_iff_eq, ← UInt64.toNat_inj, toNat_magnitudeBits, mk.injEq, mk.injEq]
  exact words.symm

/-- A NaN by its fields: every bit of the exponent is set, and some bit of the fraction. -/
private theorem isNaNBits_eq (number : Number) :
    @UnpackedFloat.isNaNBits .binary64 number.bits.toBitVec = number.isNaN := by
  have exponent : (-1#(Format.binary64.exponentBits)).toNat = 2 ^ 11 - 1 := rfl
  have fraction : (0#(Format.binary64.mantissaBitsWithoutImplicit)).toNat = 0 := rfl
  rw [Bool.eq_iff_iff, isNaN_iff, UnpackedFloat.isNaNBits, decide_eq_true_iff,
    UnpackedFloat.unpackExponent_def, UnpackedFloat.unpackMantissa_def, ← BitVec.toNat_inj, ne_eq,
    ← BitVec.toNat_inj, exponent, fraction]
  simp only [BitVec.extractLsb'_toNat, Nat.shiftRight_eq_div_pow, UInt64.toNat_toBitVec]
  omega

/-- Only the bits of a NaN are lost in its value. -/
theorem toBits_toFloat (number : Number) :
    number.toFloat.toBits = if number.isNaN then nan.bits else number.bits := by
  have packed : number.toFloat.toBits.toBitVec =
      if @UnpackedFloat.isNaNBits .binary64 number.bits.toBitVec = true then
        UnpackedFloat.packedNaN .binary64
      else number.bits.toBitVec :=
    @UnpackedFloat.pack_unpack .binary64 number.bits.toBitVec (by decide)
  rw [isNaNBits_eq] at packed
  rw [← UInt64.toBitVec_inj, packed]
  split <;> rfl

theorem toFloat_eq_nan_iff {number : Number} :
    number.toFloat = Float.nan ↔ number.isNaN = true := by
  have bits : Float.nan.toBits = nan.bits := by decide
  rw [← Float.toBits_inj, toBits_toFloat, bits]
  constructor
  · intro same
    by_contra valued
    rw [if_neg valued] at same
    obtain rfl : number = nan := congrArg mk same
    exact valued (by decide)
  · intro valueless
    rw [if_pos valueless]

/-- Numbers that are no NaN are told apart by their values as by their bits. -/
theorem toFloat_eq_iff {left right : Number} (leftValued : left.isNaN = false)
    (rightValued : right.isNaN = false) : left.toFloat = right.toFloat ↔ left = right := by
  rw [← Float.toBits_inj, toBits_toFloat, toBits_toFloat, leftValued, rightValued]
  exact ⟨congrArg mk, congrArg bits⟩

theorem canonicalBits_of_valued {number : Number} (valued : number.isNaN = false) :
    number.canonicalBits = if number = zero ∨ number = zero.negate then 0 else number.bits := by
  simp only [canonicalBits, isZero_iff, valued, Bool.false_eq_true, if_false]

/-- Numbers of one value are one number or the two zeros. -/
theorem sameValue_iff_eq_or_zeros {left right : Number} :
    left.sameValue right = true ↔
      left.isNaN = false ∧ right.isNaN = false ∧
        (left = right ∨ left = zero ∧ right = zero.negate ∨ left = zero.negate ∧ right = zero) := by
  rw [sameValue, Float.beq_iff_ne_nan_and_eq, ne_eq, ne_eq, toFloat_eq_nan_iff, toFloat_eq_nan_iff,
    Bool.not_eq_true, Bool.not_eq_true]
  refine and_congr_right fun leftValued => and_congr_right fun rightValued => ?_
  have positive : (0 : Float) = zero.toFloat := by decide
  have negative : -zero.toFloat = zero.negate.toFloat := by decide
  have valued : zero.isNaN = false ∧ zero.negate.isNaN = false := by decide
  rw [positive, negative, toFloat_eq_iff leftValued rightValued,
    toFloat_eq_iff leftValued valued.1, toFloat_eq_iff rightValued valued.2,
    toFloat_eq_iff leftValued valued.2, toFloat_eq_iff rightValued valued.1]

/-- Equality of values is equality of canonical bits, and fails at every NaN. -/
theorem sameValue_iff {left right : Number} :
    left.sameValue right = true ↔
      left.isNaN = false ∧ right.isNaN = false ∧ left.canonicalBits = right.canonicalBits := by
  rw [sameValue_iff_eq_or_zeros]
  refine and_congr_right fun leftValued => and_congr_right fun rightValued => ?_
  rw [canonicalBits_of_valued leftValued, canonicalBits_of_valued rightValued]
  -- Zero bits are the canonical bits of the zeros alone.
  cases left
  cases right
  grind [zero, negate]

/-- The number that stands for all with its canonical bits. -/
def canonical (number : Number) : Number := ⟨number.canonicalBits⟩

theorem canonical_eq_iff {left right : Number} :
    left.canonical = right.canonical ↔ left.canonicalBits = right.canonicalBits := by
  rw [canonical, canonical, mk.injEq]

theorem isNaN_of_isFinite {number : Number} (finite : number.isFinite = true) :
    number.isNaN = false := by
  rw [isFinite_iff] at finite
  rw [← Bool.not_eq_true, isNaN_iff]
  omega

end Number

end Verdict
