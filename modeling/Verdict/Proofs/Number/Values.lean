import Verdict.Proofs.Number.Equality

/-! The values of numbers as integers with both infinities. A finite number is a multiple of the
least positive one, `2^-1074`, so its value is a whole number of these units. Order, truncation and
the conversion to natural numbers are read off the value. -/

set_option autoImplicit false

namespace Verdict

namespace Number

open Float.Model UnpackedFloat

/-- Integers with both infinities. -/
abbrev Extended : Type := WithBot (WithTop Int)

namespace Extended

def integer (value : Int) : Extended := ((value : WithTop Int) : WithBot (WithTop Int))

def infinity (negative : Bool) : Extended :=
  if negative then ⊥ else ((⊤ : WithTop Int) : WithBot (WithTop Int))

@[simp] theorem integer_lt_integer {left right : Int} :
    integer left < integer right ↔ left < right := by
  simp [integer]

@[simp] theorem integer_le_integer {left right : Int} :
    integer left ≤ integer right ↔ left ≤ right := by
  simp [integer]

@[simp] theorem integer_inj {left right : Int} : integer left = integer right ↔ left = right := by
  simp [integer]

@[simp] theorem infinity_ne_integer {value : Int} {negative : Bool} :
    infinity negative ≠ integer value := by
  cases negative <;> simp [integer, infinity]

@[simp] theorem integer_lt_infinity {value : Int} {negative : Bool} :
    integer value < infinity negative ↔ negative = false := by
  cases negative
  · exact iff_of_true (WithBot.coe_lt_coe.mpr (WithTop.coe_lt_top value)) rfl
  · simp [integer, infinity]

@[simp] theorem infinity_lt_integer {value : Int} {negative : Bool} :
    infinity negative < integer value ↔ negative = true := by
  cases negative <;> simp [integer, infinity]

@[simp] theorem infinity_lt_infinity {left right : Bool} :
    infinity left < infinity right ↔ left = true ∧ right = false := by
  cases left <;> cases right <;> simp [infinity]

/-- Between integers there are only integers. -/
theorem exists_integer {value : Extended} {low high : Int} (above : integer low ≤ value)
    (below : value ≤ integer high) : ∃ between, value = integer between := by
  induction value using WithBot.recBotCoe with
  | bot => exact absurd above (not_le.mpr (@infinity_lt_integer low true |>.mpr rfl))
  | coe value =>
      induction value using WithTop.recTopCoe with
      | top => exact absurd below (not_le.mpr (@integer_lt_infinity high false |>.mpr rfl))
      | coe between => exact ⟨between, rfl⟩

end Extended

/-- The bits below the exponent. -/
def fraction (number : Number) : Nat := number.bits.toNat % 2 ^ 52

/-- The magnitude of a finite number in units of `2^-1074`. -/
def units (number : Number) : Nat :=
  if number.biasedExponent = 0 then number.fraction
  else (2 ^ 52 + number.fraction) * 2 ^ (number.biasedExponent - 1)

/-- The integer of a magnitude and a sign. -/
def signed (negative : Bool) (magnitude : Nat) : Int := if negative then -magnitude else magnitude

/-- The value in multiples of some units, cut toward zero. A NaN has none. -/
def value? (number : Number) (grain : Nat) : Option Extended :=
  if number.isNaN then none
  else if number.isInfinite then some (.infinity number.isNegative)
  else some (.integer (signed number.isNegative (number.units / grain)))

def unitsInOne : Nat := 2 ^ 1074

theorem unitsInOne_pos : 0 < unitsInOne := by
  unfold unitsInOne
  positivity

theorem unitsInOne_eq {first second : Nat} (sum : first + second = 1074) :
    unitsInOne = 2 ^ first * 2 ^ second := by
  rw [← Nat.pow_add, sum, unitsInOne]

theorem two_pow_le_unitsInOne {power : Nat} (small : power ≤ 1074) : 2 ^ power ≤ unitsInOne := by
  obtain ⟨rest, sum⟩ := Nat.exists_eq_add_of_le small
  rw [unitsInOne_eq sum.symm]
  exact Nat.le_mul_of_pos_right _ (Nat.two_pow_pos rest)

/-- The value of a number, cut toward zero to an integer. -/
def whole? (number : Number) : Option Extended := number.value? unitsInOne

theorem whole?_eq_none_iff {number : Number} : number.whole? = none ↔ number.isNaN = true := by
  unfold whole? value?
  split_ifs with unordered <;> simp [unordered]

/-- The fields of a number. -/
def unpacked (number : Number) : UnpackedFloat :=
  UnpackedFloat.unpack .binary64 number.bits.toBitVec

def sign (number : Number) : Sign := if number.isNegative then .negative else .positive

section Fields

variable (number : Number)

theorem biasedExponent_eq : number.biasedExponent = number.bits.toNat % 2 ^ 63 / 2 ^ 52 := by
  rw [biasedExponent, UInt64.toNat_shiftRight, toNat_magnitudeBits]
  exact Nat.shiftRight_eq_div_pow _ _

theorem biasedExponent_lt : number.biasedExponent < 2 ^ 11 := by
  rw [biasedExponent_eq]
  omega

theorem fraction_lt : number.fraction < 2 ^ 52 := Nat.mod_lt _ (Nat.two_pow_pos 52)

theorem toNat_bits :
    number.bits.toNat = number.bits.toNat / 2 ^ 63 * 2 ^ 63 + number.biasedExponent * 2 ^ 52 +
      number.fraction := by
  rw [biasedExponent_eq, fraction]
  omega

theorem units_lt : number.units < 2 ^ (52 + number.biasedExponent) := by
  have bound := number.fraction_lt
  unfold units
  split
  · rename_i bottom
    rw [bottom]
    exact bound
  · calc (2 ^ 52 + number.fraction) * 2 ^ (number.biasedExponent - 1)
        < 2 ^ 53 * 2 ^ (number.biasedExponent - 1) :=
          Nat.mul_lt_mul_of_pos_right (by omega) (Nat.two_pow_pos _)
      _ = 2 ^ (52 + number.biasedExponent) := by
          rw [← Nat.pow_add]
          congr 1
          omega

theorem isNegative_eq : number.isNegative = decide (number.bits.toNat / 2 ^ 63 = 1) := by
  rw [isNegative, Bool.eq_iff_iff, beq_iff_eq, decide_eq_true_iff, ← UInt64.toNat_inj,
    UInt64.toNat_shiftRight]
  change number.bits.toNat >>> 63 = 1 ↔ _
  rw [Nat.shiftRight_eq_div_pow]

theorem isNaN_eq :
    number.isNaN = decide (number.biasedExponent = 2047 ∧ number.fraction ≠ 0) := by
  rw [Bool.eq_iff_iff, isNaN_iff, decide_eq_true_iff, biasedExponent_eq, fraction]
  omega

theorem isInfinite_eq :
    number.isInfinite = decide (number.biasedExponent = 2047 ∧ number.fraction = 0) := by
  rw [isInfinite, Bool.eq_iff_iff, beq_iff_eq, decide_eq_true_iff, ← UInt64.toNat_inj,
    toNat_magnitudeBits, biasedExponent_eq, fraction]
  change number.bits.toNat % 2 ^ 63 = 0x7FF0000000000000 ↔ _
  omega

theorem toNat_unpackExponent :
    (@unpackExponent .binary64 number.bits.toBitVec).toNat = number.biasedExponent := by
  rw [unpackExponent_def, BitVec.extractLsb'_toNat, biasedExponent_eq, Nat.shiftRight_eq_div_pow,
    UInt64.toNat_toBitVec]
  change number.bits.toNat / 2 ^ 52 % 2 ^ 11 = _
  omega

theorem toNat_unpackMantissa :
    (@unpackMantissa .binary64 number.bits.toBitVec).toNat = number.fraction := by
  rw [unpackMantissa_def, BitVec.extractLsb'_toNat, Nat.shiftRight_eq_div_pow,
    UInt64.toNat_toBitVec]
  change number.bits.toNat / 2 ^ 0 % 2 ^ 52 = _
  rw [fraction, Nat.pow_zero, Nat.div_one]

theorem ofBitVec_unpackSign :
    Sign.ofBitVec (@unpackSign .binary64 number.bits.toBitVec) = number.sign := by
  have bound := number.bits.toNat_lt
  have bit : (@unpackSign .binary64 number.bits.toBitVec).toNat = number.bits.toNat / 2 ^ 63 := by
    rw [unpackSign_def, BitVec.extractLsb'_toNat, Nat.shiftRight_eq_div_pow,
      UInt64.toNat_toBitVec]
    change number.bits.toNat / 2 ^ 63 % 2 ^ 1 = _
    omega
  have clear : @unpackSign .binary64 number.bits.toBitVec = 0#1 ↔
      number.bits.toNat / 2 ^ 63 = 0 := by
    rw [← BitVec.toNat_inj, bit]
    rfl
  simp only [Sign.ofBitVec, sign, isNegative_eq, clear]
  by_cases negative : number.bits.toNat / 2 ^ 63 = 1
  · rw [if_neg (by omega), if_pos (decide_eq_true negative)]
  · rw [if_pos (by omega), if_neg (by simpa using negative)]

/-- The fields of a number, with what they tell about it. -/
inductive Unpacks (number : Number) : UnpackedFloat → Prop where
  | notANumber : number.isNaN = true → Unpacks number .notANumber
  | infinity : number.isNaN = false → number.isInfinite = true →
      Unpacks number (.infinity number.sign)
  | zero : number.isNaN = false → number.isInfinite = false → number.units = 0 →
      Unpacks number (.zero number.sign)
  | finite {mantissa : Nat} {exponent : Int} {positive : 0 < mantissa} :
      number.isNaN = false → number.isInfinite = false →
      number.units = mantissa * 2 ^ (exponent + 1074).toNat →
      mantissa < 2 ^ 53 → -1074 ≤ exponent → exponent ≤ 971 →
      2 ^ 52 ≤ mantissa ∨ exponent = -1074 →
      Unpacks number (.finite number.sign mantissa exponent positive)

theorem unpackExponent_eq_ones_iff :
    @unpackExponent .binary64 number.bits.toBitVec = -1#_ ↔ number.biasedExponent = 2047 := by
  rw [← BitVec.toNat_inj, toNat_unpackExponent]
  rfl

theorem unpackExponent_eq_zero_iff :
    @unpackExponent .binary64 number.bits.toBitVec = 0#_ ↔ number.biasedExponent = 0 := by
  rw [← BitVec.toNat_inj, toNat_unpackExponent]
  rfl

theorem unpackMantissa_eq_zero_iff :
    @unpackMantissa .binary64 number.bits.toBitVec = 0#_ ↔ number.fraction = 0 := by
  rw [← BitVec.toNat_inj, toNat_unpackMantissa]
  rfl

/-- The greatest exponent is that of the infinities and of what is no number. -/
theorem unpacks_of_top (top : number.biasedExponent = 2047) :
    number.Unpacks number.unpacked := by
  unfold unpacked UnpackedFloat.unpack
  simp only [ofBitVec_unpackSign]
  rw [if_pos (number.unpackExponent_eq_ones_iff.mpr top)]
  by_cases zeros : number.fraction = 0
  · rw [if_pos (number.unpackMantissa_eq_zero_iff.mpr zeros)]
    exact .infinity (by simp [isNaN_eq, zeros]) (by simp [isInfinite_eq, top, zeros])
  · rw [if_neg (mt number.unpackMantissa_eq_zero_iff.mp zeros)]
    exact .notANumber (by simp [isNaN_eq, top, zeros])

/-- The least exponent is that of the zeros and of the numbers without a leading bit. -/
theorem unpacks_of_bottom (bottom : number.biasedExponent = 0) :
    number.Unpacks number.unpacked := by
  have valued : number.isNaN = false := by simp [isNaN_eq, bottom]
  have finite : number.isInfinite = false := by simp [isInfinite_eq, bottom]
  have notTop : number.biasedExponent ≠ 2047 := by omega
  have units : number.units = number.fraction := by simp [Number.units, bottom]
  have mantissa := number.toNat_unpackMantissa
  have small := number.fraction_lt
  have least : ((@unpackExponent .binary64 number.bits.toBitVec).toNat : Int) -
      (Format.binary64.exponentBias + Format.binary64.mantissaBitsWithoutImplicit) + 1 =
        -1074 := by
    rw [toNat_unpackExponent, bottom]
    rfl
  unfold unpacked UnpackedFloat.unpack
  simp only [ofBitVec_unpackSign]
  rw [if_neg (mt number.unpackExponent_eq_ones_iff.mp notTop),
    if_pos (number.unpackExponent_eq_zero_iff.mpr bottom)]
  split
  · rename_i zeros
    rw [zeros] at mantissa
    exact .zero valued finite (units.trans mantissa.symm)
  · refine .finite valued finite ?_ ?_ least.ge (least.le.trans (by decide)) (.inr least)
    · rw [least, units, mantissa]
      simp
    · rw [mantissa]
      omega

/-- Between them the mantissa has a leading bit that is not written. -/
theorem unpacks_of_between (notTop : number.biasedExponent ≠ 2047)
    (notBottom : number.biasedExponent ≠ 0) : number.Unpacks number.unpacked := by
  have valued : number.isNaN = false := by simp [isNaN_eq, notTop]
  have finite : number.isInfinite = false := by simp [isInfinite_eq, notTop]
  have bound := number.biasedExponent_lt
  have small := number.fraction_lt
  have leading : (1#1 ++ @unpackMantissa .binary64 number.bits.toBitVec).toNat =
      2 ^ 52 + number.fraction := by
    rw [BitVec.toNat_append, toNat_unpackMantissa, ← Nat.shiftLeft_add_eq_or_of_lt small]
    rfl
  have place : ((@unpackExponent .binary64 number.bits.toBitVec).toNat : Int) -
      (Format.binary64.exponentBias + Format.binary64.mantissaBitsWithoutImplicit) =
        number.biasedExponent - 1075 := by
    rw [toNat_unpackExponent]
    rfl
  unfold unpacked UnpackedFloat.unpack
  simp only [ofBitVec_unpackSign]
  rw [if_neg (mt number.unpackExponent_eq_ones_iff.mp notTop),
    if_neg (mt number.unpackExponent_eq_zero_iff.mp notBottom)]
  refine .finite valued finite ?_ ?_ ?_ ?_ (.inl ?_)
  · rw [leading, place, Number.units, if_neg notBottom]
    congr 2
    omega
  · rw [leading]
    omega
  · rw [place]
    omega
  · rw [place]
    omega
  · rw [leading]
    omega

theorem unpacks : number.Unpacks number.unpacked := by
  by_cases top : number.biasedExponent = 2047
  · exact number.unpacks_of_top top
  · by_cases bottom : number.biasedExponent = 0
    · exact number.unpacks_of_bottom bottom
    · exact number.unpacks_of_between top bottom

theorem unpack_toFloat : number.toFloat.toModel.unpack = number.unpacked := by
  have fields : number.toFloat.toModel.unpack =
      UnpackedFloat.unpack .binary64 number.toFloat.toBits.toBitVec := rfl
  rw [fields, toBits_toFloat]
  cases unordered : number.isNaN with
  | false => rfl
  | true =>
      have parts := number.unpacks
      generalize number.unpacked = found at parts
      cases parts with
      | notANumber =>
          rw [if_pos rfl]
          exact @unpack_packedNaN .binary64
      | infinity valued => simp [unordered] at valued
      | zero valued => simp [unordered] at valued
      | finite valued => simp [unordered] at valued

end Fields

section Order

variable {left right : Number}

/-- Magnitudes are ordered by exponent first: a greater exponent has its leading bit set. -/
private theorem scaled_lt_iff {first second : Nat} {low high : Int} (firstSmall : first < 2 ^ 53)
    (secondSmall : second < 2 ^ 53) (lowLeast : -1074 ≤ low) (highLeast : -1074 ≤ high)
    (firstLeading : 2 ^ 52 ≤ first ∨ low = -1074) (secondLeading : 2 ^ 52 ≤ second ∨ high = -1074) :
    first * 2 ^ (low + 1074).toNat < second * 2 ^ (high + 1074).toNat ↔
      low < high ∨ low = high ∧ first < second := by
  have step (lower upper : Nat) (small : lower < 2 ^ 53) (leading : 2 ^ 52 ≤ upper)
      {origin goal : Int} (least : -1074 ≤ origin) (below : origin < goal) :
      lower * 2 ^ (origin + 1074).toNat < upper * 2 ^ (goal + 1074).toNat := by
    calc lower * 2 ^ (origin + 1074).toNat < 2 ^ 53 * 2 ^ (origin + 1074).toNat :=
          Nat.mul_lt_mul_of_pos_right small (Nat.two_pow_pos _)
      _ = 2 ^ 52 * 2 ^ ((origin + 1074).toNat + 1) := by
          rw [Nat.pow_succ]
          omega
      _ ≤ upper * 2 ^ (goal + 1074).toNat :=
          Nat.mul_le_mul leading (Nat.pow_le_pow_right (by decide) (by omega))
  rcases Int.lt_trichotomy low high with below | same | above
  · simp only [below, true_or, iff_true]
    exact step first second firstSmall (by omega) lowLeast below
  · subst same
    simp
  · have reversed := step second first secondSmall (by omega) highLeast above
    constructor
    · intro before
      omega
    · rintro (before | ⟨same, -⟩) <;> omega

/-- The value of fields in units of `2^-1074`. -/
private def valueOf : UnpackedFloat → Option Extended
  | .notANumber => none
  | .infinity sign => some (.infinity (sign == .negative))
  | .zero _ => some (.integer 0)
  | .finite sign mantissa exponent _ =>
      some (.integer (signed (sign == .negative) (mantissa * 2 ^ (exponent + 1074).toNat)))

private theorem value?_eq_valueOf (number : Number) :
    number.value? 1 = valueOf number.unpacked := by
  have negative : (number.sign == .negative) = number.isNegative := by
    cases negative : number.isNegative <;> simp [sign, negative]
  have fields := number.unpacks
  generalize number.unpacked = found at fields
  cases fields with
  | notANumber unordered => simp [value?, valueOf, unordered]
  | infinity valued infinite => simp [value?, valueOf, valued, infinite, negative]
  | zero valued finite unitless => simp [value?, valueOf, valued, finite, unitless, signed]
  | finite valued finite units => simp [value?, valueOf, valued, finite, units, negative]

private theorem less_eq_lt : left.less right = left.unpacked.lt right.unpacked := by
  rw [← unpack_toFloat left, ← unpack_toFloat right]
  rw [Bool.eq_iff_iff, less, decide_eq_true_iff]
  exact decide_eq_true_iff

theorem less_iff :
    left.less right = true ↔ ∃ x ∈ left.value? 1, ∃ y ∈ right.value? 1, x < y := by
  rw [less_eq_lt, value?_eq_valueOf, value?_eq_valueOf]
  have leftFields := left.unpacks
  have rightFields := right.unpacks
  generalize left.unpacked = first at leftFields
  generalize right.unpacked = second at rightFields
  have signs : (Sign.positive == Sign.negative) = false := rfl
  have order : compare Sign.negative Sign.positive = .lt := rfl
  cases leftFields with
  | notANumber => simp [UnpackedFloat.lt, UnpackedFloat.compare, valueOf]
  | infinity =>
      cases rightFields <;> cases left.sign <;> cases right.sign <;>
        simp [UnpackedFloat.lt, UnpackedFloat.compare, valueOf, signs, order]
  | zero =>
      cases rightFields with
      | @finite mantissa exponent positive =>
          have magnitude : 0 < mantissa * 2 ^ (exponent + 1074).toNat :=
            Nat.mul_pos positive (Nat.two_pow_pos _)
          cases right.sign <;>
            simp [UnpackedFloat.lt, UnpackedFloat.compare, valueOf, signed, signs, positive]
      | _ =>
          cases right.sign <;>
            simp [UnpackedFloat.lt, UnpackedFloat.compare, valueOf, signs]
  | @finite mantissa exponent positive _ _ _ small least _ leading =>
      have magnitude : 0 < mantissa * 2 ^ (exponent + 1074).toNat :=
        Nat.mul_pos positive (Nat.two_pow_pos _)
      cases rightFields with
      | @finite other further otherPositive _ _ _ otherSmall otherLeast _ otherLeading =>
          have otherMagnitude : 0 < other * 2 ^ (further + 1074).toNat :=
            Nat.mul_pos otherPositive (Nat.two_pow_pos _)
          have forward := scaled_lt_iff small otherSmall least otherLeast leading otherLeading
          have backward := scaled_lt_iff otherSmall small otherLeast least otherLeading leading
          rw [@eq_comm _ further] at backward
          simp only [valueOf]
          generalize mantissa * 2 ^ (exponent + 1074).toNat = size at *
          generalize other * 2 ^ (further + 1074).toNat = otherSize at *
          cases left.sign <;> cases right.sign
          · simp [UnpackedFloat.lt, UnpackedFloat.compare, signed, Ordering.then_eq_gt,
              compare_gt_iff_gt, backward]
          · simp [UnpackedFloat.lt, UnpackedFloat.compare, signed, signs]
            omega
          · simp [UnpackedFloat.lt, UnpackedFloat.compare, signed, signs]
          · simp [UnpackedFloat.lt, UnpackedFloat.compare, signed, signs, Ordering.then_eq_lt,
              compare_lt_iff_lt, forward]
      | _ =>
          cases left.sign <;> cases right.sign <;>
            simp [UnpackedFloat.lt, UnpackedFloat.compare, valueOf, signed, signs, positive]

/-- A number without a fraction. -/
def IsWhole (number : Number) : Prop :=
  number.isNaN = false → number.isInfinite = false → unitsInOne ∣ number.units

theorem signed_mul_lt_iff {negative other : Bool} {first second grain : Nat}
    (positive : 0 < grain) :
    signed negative (grain * first) < signed other (grain * second) ↔
      signed negative first < signed other second := by
  have factor (sign : Bool) (magnitude : Nat) :
      signed sign (grain * magnitude) = grain * signed sign magnitude := by
    cases sign <;> simp [signed]
  rw [factor, factor]
  exact Int.mul_lt_mul_left (by exact_mod_cast positive)

/-- Numbers without fractions are ordered as integers. -/
theorem less_iff_whole (leftWhole : left.IsWhole) (rightWhole : right.IsWhole) :
    left.less right = true ↔ ∃ x ∈ left.whole?, ∃ y ∈ right.whole?, x < y := by
  rw [less_iff]
  unfold whole? value?
  cases leftNaN : left.isNaN <;> cases rightNaN : right.isNaN <;>
    cases leftInfinite : left.isInfinite <;> cases rightInfinite : right.isInfinite <;> simp
  obtain ⟨first, leftUnits⟩ := leftWhole leftNaN leftInfinite
  obtain ⟨second, rightUnits⟩ := rightWhole rightNaN rightInfinite
  rw [leftUnits, rightUnits, Nat.mul_div_cancel_left _ unitsInOne_pos,
    Nat.mul_div_cancel_left _ unitsInOne_pos]
  exact signed_mul_lt_iff unitsInOne_pos

end Order

section Truncation

variable {number : Number}

private theorem and_clear_low (word : Nat) {count : Nat} (small : word < 2 ^ 64)
    (within : count ≤ 64) : word &&& (2 ^ 64 - 2 ^ count) = word / 2 ^ count * 2 ^ count := by
  have ones : 2 ^ 64 - 2 ^ count = 2 ^ count * (2 ^ (64 - count) - 1) := by
    rw [Nat.mul_sub_one, ← Nat.pow_add]
    congr 2
    omega
  refine Nat.eq_of_testBit_eq fun place => ?_
  rw [ones, Nat.mul_comm (word / 2 ^ count), Nat.testBit_and, Nat.testBit_two_pow_mul,
    Nat.testBit_two_pow_mul, Nat.testBit_two_pow_sub_one, Nat.testBit_div_two_pow]
  by_cases low : count ≤ place
  · have shifted : place - count + count = place := by omega
    by_cases high : place < 64
    · simp [low, shifted, show place - count < 64 - count by omega]
    · have clear : word.testBit place = false :=
        Nat.testBit_lt_two_pow (small.trans_le (Nat.pow_le_pow_right (by decide) (by omega)))
      simp [low, shifted, clear]
  · simp [low]

theorem isNaN_quiet (unordered : number.isNaN = true) : number.quiet.isNaN = true := by
  rw [isNaN_iff] at unordered ⊢
  rw [quiet, UInt64.toNat_or, Nat.or_mod_two_pow]
  exact unordered.trans_le Nat.left_le_or

theorem isNaN_truncate (unordered : number.isNaN = true) : number.truncate.isNaN = true := by
  rw [truncate, if_pos unordered]
  exact isNaN_quiet unordered

/-- Below the exponent of one only the sign is left. -/
private theorem toNat_signBit :
    (number.bits &&& 0x8000000000000000).toNat = number.bits.toNat / 2 ^ 63 * 2 ^ 63 := by
  rw [UInt64.toNat_and]
  exact @and_clear_low number.bits.toNat 63 number.bits.toNat_lt (by decide)

private theorem toNat_clearFraction {count : Nat} (within : count ≤ 52) :
    (number.bits &&& ~~~((1 : UInt64) <<< count.toUInt64 - 1)).toNat =
      number.bits.toNat / 2 ^ count * 2 ^ count := by
  have size : UInt64.size = 2 ^ 64 := rfl
  have power : 2 ^ count ≤ 2 ^ 52 := Nat.pow_le_pow_right (by decide) within
  have shift : (UInt64.ofNat count).toNat = count :=
    UInt64.toNat_ofNat_of_lt' (by omega)
  have one : ((1 : UInt64) <<< count.toUInt64).toNat = 2 ^ count := by
    rw [UInt64.toNat_shiftLeft]
    change 1 <<< ((UInt64.ofNat count).toNat % 64) % 2 ^ 64 = 2 ^ count
    rw [shift, Nat.mod_eq_of_lt (by omega : count < 64), Nat.one_shiftLeft]
    exact Nat.mod_eq_of_lt (power.trans_lt (by decide))
  have positive : (1 : UInt64) ≤ (1 : UInt64) <<< count.toUInt64 := by
    rw [UInt64.le_iff_toNat_le, one]
    exact Nat.one_le_two_pow
  rw [UInt64.toNat_and, UInt64.toNat_not, UInt64.toNat_sub_of_le _ _ positive, one]
  have mask : UInt64.size - 1 - (2 ^ count - UInt64.toNat 1) = 2 ^ 64 - 2 ^ count := by
    have unit : UInt64.toNat 1 = 1 := rfl
    rw [unit, size, Nat.sub_sub, Nat.add_sub_cancel' Nat.one_le_two_pow]
  rw [mask]
  exact and_clear_low _ number.bits.toNat_lt (by omega)

/-- The fields are told by any way to put the bits together from parts of their sizes. -/
private theorem fields_of_toNat {sign exponent low : Nat}
    (split : number.bits.toNat = sign * 2 ^ 63 + exponent * 2 ^ 52 + low)
    (exponentSmall : exponent < 2 ^ 11) (lowSmall : low < 2 ^ 52) :
    number.isNegative = decide (sign = 1) ∧ number.biasedExponent = exponent ∧
      number.fraction = low := by
  rw [isNegative_eq, biasedExponent_eq, fraction, split]
  refine ⟨?_, by omega, by omega⟩
  congr 1
  rw [eq_iff_iff]
  omega

private theorem truncate_below_one (valued : number.isNaN = false)
    (small : number.biasedExponent < 1023) :
    number.truncate.whole? = number.whole? ∧ number.truncate.IsWhole := by
  have truncated : number.truncate = ⟨number.bits &&& 0x8000000000000000⟩ := by
    simp [truncate, valued, small]
  have split : number.truncate.bits.toNat =
      number.bits.toNat / 2 ^ 63 * 2 ^ 63 + 0 * 2 ^ 52 + 0 := by
    rw [truncated, Nat.zero_mul, Nat.add_zero]
    exact toNat_signBit
  obtain ⟨negative, exponent, fraction⟩ := fields_of_toNat split (by decide) (by decide)
  have unitless : number.truncate.units = 0 := by simp [units, exponent, fraction]
  have vanishing : number.units / unitsInOne = 0 := by
    refine Nat.div_eq_of_lt ((units_lt number).trans_le ?_)
    rw [unitsInOne]
    gcongr
    · decide
    · omega
  constructor
  · rw [whole?, whole?, value?, value?, unitless, vanishing, negative, isNegative_eq]
    simp [isNaN_eq, isInfinite_eq, exponent, show number.biasedExponent ≠ 2047 by omega]
  · exact fun _ _ => unitless ▸ Nat.dvd_zero _

private theorem div_mul_of_split {word sign exponent low part rest : Nat}
    (split : word = sign * 2 ^ 63 + exponent * 2 ^ 52 + low) (positive : 0 < part)
    (power : 2 ^ 52 = part * rest) :
    word / part * part = sign * 2 ^ 63 + exponent * 2 ^ 52 + low / part * part := by
  have high : sign * 2 ^ 63 + exponent * 2 ^ 52 =
      part * (sign * 2 ^ 11 * rest + exponent * rest) := by
    rw [show 2 ^ 63 = 2 ^ 11 * 2 ^ 52 by decide, power]
    ring
  rw [split, high, Nat.mul_add_div positive, Nat.add_mul, Nat.mul_comm part]

private theorem truncate_with_fraction (valued : number.isNaN = false)
    (large : 1023 ≤ number.biasedExponent) (small : number.biasedExponent < 1075) :
    number.truncate.whole? = number.whole? ∧ number.truncate.IsWhole := by
  have whole := number.toNat_bits
  have bound := number.fraction_lt
  obtain ⟨count, sum⟩ : ∃ count, number.biasedExponent + count = 1075 :=
    ⟨1075 - number.biasedExponent, by omega⟩
  have truncated : number.truncate =
      ⟨number.bits &&& ~~~((1 : UInt64) <<< count.toUInt64 - 1)⟩ := by
    simp [truncate, valued, small, show ¬ number.biasedExponent < 1023 by omega,
      show 1075 - number.biasedExponent = count by omega]
  -- the bits that are cleared lie in the fraction
  obtain ⟨rest, power⟩ : ∃ rest, 2 ^ 52 = 2 ^ count * rest :=
    ⟨2 ^ (52 - count), by rw [← Nat.pow_add]; congr 1; omega⟩
  have split : number.truncate.bits.toNat = number.bits.toNat / 2 ^ 63 * 2 ^ 63 +
      number.biasedExponent * 2 ^ 52 + number.fraction / 2 ^ count * 2 ^ count := by
    rw [truncated]
    exact (toNat_clearFraction (by omega)).trans
      (div_mul_of_split whole (Nat.two_pow_pos count) power)
  obtain ⟨negative, exponent, fraction⟩ := fields_of_toNat split number.biasedExponent_lt
    ((Nat.div_mul_le_self _ _).trans_lt bound)
  have scale : unitsInOne = 2 ^ count * 2 ^ (number.biasedExponent - 1) :=
    unitsInOne_eq (by omega)
  have bottom : number.biasedExponent ≠ 0 := by omega
  have before : number.units / unitsInOne = rest + number.fraction / 2 ^ count := by
    rw [units, if_neg bottom, scale, Nat.mul_div_mul_right _ _ (Nat.two_pow_pos _), power,
      Nat.mul_add_div (Nat.two_pow_pos count)]
  have after : number.truncate.units = unitsInOne * (rest + number.fraction / 2 ^ count) := by
    rw [units, exponent, if_neg bottom, fraction, scale, power]
    ring
  constructor
  · rw [whole?, whole?, value?, value?, after, Nat.mul_div_cancel_left _ unitsInOne_pos,
      before, negative, isNegative_eq]
    simp [isNaN_eq, isInfinite_eq, exponent, show number.biasedExponent ≠ 2047 by omega]
  · exact fun _ _ => after ▸ Nat.dvd_mul_right _ _

/-- Truncation keeps the whole part, and nothing but it. -/
theorem truncate_spec (number : Number) :
    number.truncate.whole? = number.whole? ∧ number.truncate.IsWhole := by
  cases unordered : number.isNaN with
  | true =>
      have still := isNaN_truncate unordered
      constructor
      · simp [whole?, value?, unordered, still]
      · intro valued
        rw [still] at valued
        cases valued
  | false =>
      by_cases small : number.biasedExponent < 1023
      · exact truncate_below_one unordered small
      · by_cases middle : number.biasedExponent < 1075
        · exact truncate_with_fraction unordered (by omega) middle
        · have kept : number.truncate = number := by simp [truncate, unordered, small, middle]
          have power : unitsInOne ∣ 2 ^ (number.biasedExponent - 1) := by
            rw [unitsInOne, Nat.pow_dvd_pow_iff_le_right (by decide)]
            omega
          rw [kept]
          refine ⟨rfl, fun _ _ => ?_⟩
          rw [units, if_neg (by omega)]
          exact power.mul_left _

end Truncation

section Conversion

variable {number : Number}

private theorem toNat_eq (number : Number) : number.toNat = number.unpacked.toUInt64.toNat := by
  rw [← unpack_toFloat]
  rfl

theorem toNat_of_isNaN (unordered : number.isNaN = true) : number.toNat = 0 := by
  have fields := number.unpacks
  rw [toNat_eq]
  generalize number.unpacked = found at fields
  cases fields with
  | notANumber => rfl
  | infinity valued => simp [unordered] at valued
  | zero valued => simp [unordered] at valued
  | finite valued => simp [unordered] at valued

private theorem shiftRight_mantissa (extended : ExtendedMantissa) (count : Nat) :
    (extended >>> count).mantissa = extended.mantissa / 2 ^ count := by
  change (count.repeat ExtendedMantissa.shiftRightOne extended).mantissa = _
  induction count with
  | zero => simp [Nat.repeat]
  | succ count ih =>
      rw [Nat.repeat, Nat.pow_succ, ← Nat.div_div_eq_div_mul, ← ih]
      rfl

private theorem roundToInt_eq (sign : Sign) (mantissa : Nat) {exponent : Int}
    (least : -1074 ≤ exponent) :
    roundToInt sign mantissa exponent =
      sign.apply (mantissa * 2 ^ (exponent + 1074).toNat / unitsInOne : Nat) := by
  have shifted : roundToInt sign mantissa exponent =
      sign.apply (mantissa <<< (exponent - 0).toNat /
        2 ^ (0 - (exponent - (exponent - 0).toNat)).toNat : Nat) := by
    have mantissa := shiftRight_mantissa
      (.ofMantissaAndAccuracy (mantissa <<< (exponent - 0).toNat) .exact)
      (0 - (exponent - (exponent - 0).toNat)).toNat
    exact congrArg (fun magnitude : Nat => sign.apply (magnitude : Int)) mantissa
  rw [shifted]
  congr 2
  by_cases whole : 0 ≤ exponent
  · have undivided : (0 - (exponent - (exponent - 0).toNat)).toNat = 0 := by omega
    obtain ⟨one, split, scale⟩ : ∃ one, (exponent + 1074).toNat = (exponent - 0).toNat + one ∧
        unitsInOne = 2 ^ one := ⟨1074, by omega, rfl⟩
    rw [undivided, Nat.shiftLeft_eq, Nat.pow_zero, Nat.div_one, split, Nat.pow_add,
      ← Nat.mul_assoc, ← scale, Nat.mul_div_cancel _ unitsInOne_pos]
  · have unshifted : (exponent - 0).toNat = 0 := by omega
    have scale : unitsInOne = 2 ^ (-exponent).toNat * 2 ^ (exponent + 1074).toNat :=
      unitsInOne_eq (by omega)
    have amount : (0 - (exponent - (0 : Nat))).toNat = (-exponent).toNat := by omega
    rw [unshifted, amount, Nat.shiftLeft_zero, scale, Nat.mul_div_mul_right _ _ (Nat.two_pow_pos _)]

/-- The conversion answers the whole part if it is a natural number of 64 bits. -/
theorem toNat_of_whole {whole : Nat} (parts : number.whole? = some (.integer whole))
    (small : whole < 2 ^ 64) : number.toNat = whole := by
  have fields := number.unpacks
  rw [toNat_eq]
  generalize number.unpacked = found at fields
  unfold whole? value? at parts
  cases fields with
  | notANumber unordered => simp [unordered] at parts
  | infinity valued infinite => simp [valued, infinite] at parts
  | zero valued finite unitless =>
      have same : signed number.isNegative 0 = whole := by
        simpa [valued, finite, unitless] using parts
      change 0 = whole
      cases negative : number.isNegative <;> simp only [signed, negative] at same <;> omega
  | @finite mantissa exponent positive valued finite units _ least =>
      have same : signed number.isNegative (number.units / unitsInOne) = whole := by
        simpa [valued, finite] using parts
      have rounded : (roundToInt number.sign mantissa exponent).toNat = whole := by
        rw [roundToInt_eq _ _ least, ← units]
        generalize number.units / unitsInOne = size at same
        cases negative : number.isNegative <;>
          simp only [signed, negative, if_true, Bool.false_eq_true, if_false] at same <;>
          simp only [sign, negative, Sign.apply, if_true, Bool.false_eq_true, if_false] <;> omega
      change (UInt64.ofNatClamp (roundToInt number.sign mantissa exponent).toNat).toNat = whole
      rw [rounded, UInt64.toNat_ofNatClamp_of_lt small]

end Conversion

end Number

end Verdict
