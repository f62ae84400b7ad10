import Verdict.Proofs.Number.Values

/-! Where rounding changes nothing. A natural number below `2^53` is a number, and so are the
difference of two of them and the integers of that size. -/

set_option autoImplicit false

namespace Verdict

namespace Number

open Float.Model UnpackedFloat

section Rounding

variable {mantissa : Nat} {exponent : Int} {sign : Sign}

/-- Zeros are shifted out without a rest. -/
theorem shiftRight_mul_two_pow (mantissa count : Nat) :
    ExtendedMantissa.ofMantissaAndAccuracy (mantissa * 2 ^ count) .exact >>> count =
      .ofMantissaAndAccuracy mantissa .exact := by
  change count.repeat ExtendedMantissa.shiftRightOne ⟨_, false, false⟩ = ⟨_, false, false⟩
  induction count generalizing mantissa with
  | zero => simp [Nat.repeat]
  | succ count ih =>
      rw [Nat.repeat, Nat.pow_succ', ← Nat.mul_assoc, ih]
      simp [ExtendedMantissa.shiftRightOne]

theorem ne_zero_of_log2 (leading : mantissa.log2 = 52) : mantissa ≠ 0 := by
  rintro rfl
  simp at leading

theorem log2_mul_two_pow (positive : mantissa ≠ 0) (count : Nat) :
    (mantissa * 2 ^ count).log2 = mantissa.log2 + count := by
  have lower := Nat.log2_self_le positive
  have upper := @Nat.lt_log2_self mantissa
  rw [Nat.log2_eq_iff (Nat.mul_ne_zero positive (Nat.two_pow_pos count).ne'), Nat.pow_add,
    show mantissa.log2 + count + 1 = mantissa.log2 + 1 + count by omega, Nat.pow_add]
  exact ⟨Nat.mul_le_mul_right _ lower, Nat.mul_lt_mul_of_pos_right upper (Nat.two_pow_pos count)⟩

theorem targetExponent_eq {total : Int} (sum : total = exponent + 53) (least : -1074 ≤ exponent) :
    Format.binary64.targetExponent total = exponent := by
  have bits : (Format.binary64.mantissaBits : Int) = 53 := rfl
  have bottom : Format.binary64.minExponent = -1074 := rfl
  rw [Format.targetExponent, bits, bottom]
  omega

theorem shiftToTargetExponent_exact (leading : mantissa.log2 = 52) (least : -1074 ≤ exponent)
    (extra : Nat) :
    shiftToTargetExponent .binary64 (mantissa * 2 ^ extra) (exponent - extra) .exact =
      (.ofMantissaAndAccuracy mantissa .exact, exponent) := by
  have total : totalExponent (mantissa * 2 ^ extra) (exponent - extra) = exponent + 53 := by
    rw [totalExponent, log2_mul_two_pow (ne_zero_of_log2 leading), leading]
    omega
  have amount : (exponent - (exponent - extra)).toNat = extra := by omega
  rw [shiftToTargetExponent, targetExponent_eq total least, shiftToExponent, amount,
    shiftRight_mul_two_pow, Int.sub_add_cancel]

theorem roundWithAccuracy_exact (leading : mantissa.log2 = 52) (least : -1074 ≤ exponent)
    (extra : Nat) :
    roundWithAccuracy .binary64 sign (mantissa * 2 ^ extra) (exponent - extra) .exact =
      .finite sign mantissa exponent (Nat.pos_of_ne_zero (ne_zero_of_log2 leading)) := by
  have again := shiftToTargetExponent_exact leading least 0
  have rounded : (ExtendedMantissa.ofMantissaAndAccuracy mantissa .exact).roundedMantissa =
      mantissa := rfl
  have kept : (ExtendedMantissa.ofMantissaAndAccuracy mantissa .exact).mantissa = mantissa := rfl
  rw [Nat.pow_zero, Nat.mul_one, Nat.cast_zero, Int.sub_zero] at again
  simp only [roundWithAccuracy, shiftToTargetExponent_exact leading least extra, rounded, again,
    kept, ne_zero_of_log2 leading, dite_false]

/-- Fields of the value that `mantissa` and `exponent` stand for are rounded to these. -/
theorem round_exact {magnitude : Nat} {place : Int} (leading : mantissa.log2 = 52)
    (least : -1074 ≤ exponent) (low : -1074 ≤ place)
    (same : magnitude * 2 ^ (place + 1074).toNat = mantissa * 2 ^ (exponent + 1074).toNat) :
    round .binary64 sign magnitude place =
      .finite sign mantissa exponent (Nat.pos_of_ne_zero (ne_zero_of_log2 leading)) := by
  have positive : magnitude ≠ 0 := by
    rintro rfl
    have := Nat.mul_pos (Nat.pos_of_ne_zero (ne_zero_of_log2 leading))
      (Nat.two_pow_pos (exponent + 1074).toNat)
    omega
  have total : totalExponent magnitude place = exponent + 53 := by
    have sizes := congrArg Nat.log2 same
    rw [log2_mul_two_pow positive, log2_mul_two_pow (ne_zero_of_log2 leading), leading] at sizes
    rw [totalExponent]
    omega
  rw [UnpackedFloat.round, targetExponent_eq total least, decreaseExponent]
  dsimp only
  by_cases above : exponent ≤ place
  · have split : (place + 1074).toNat = (place - exponent).toNat + (exponent + 1074).toNat := by
      omega
    rw [split, Nat.pow_add, ← Nat.mul_assoc] at same
    have filled := Nat.eq_of_mul_eq_mul_right (Nat.two_pow_pos _) same
    have exact := @roundWithAccuracy_exact mantissa exponent sign leading least 0
    rw [Nat.shiftLeft_eq, filled, show place - (place - exponent).toNat = exponent by omega]
    simpa using exact
  · obtain ⟨extra, sum⟩ : ∃ extra : Nat, place = exponent - extra :=
      ⟨(exponent - place).toNat, by omega⟩
    have split : (exponent + 1074).toNat = extra + (place + 1074).toNat := by omega
    rw [split, Nat.pow_add, ← Nat.mul_assoc] at same
    have filled := Nat.eq_of_mul_eq_mul_right (Nat.two_pow_pos _) same
    have unshifted : (place - exponent).toNat = 0 := by omega
    rw [unshifted, Nat.shiftLeft_zero, filled, Nat.cast_zero, Int.sub_zero, sum]
    exact roundWithAccuracy_exact leading least extra

theorem unpack_pack (leading : mantissa.log2 = 52) (least : -1074 ≤ exponent)
    (most : exponent ≤ 971) {positive : 0 < mantissa} :
    UnpackedFloat.unpack .binary64 (UnpackedFloat.pack .binary64
      (.finite sign mantissa exponent positive)) = .finite sign mantissa exponent positive := by
  obtain ⟨biased, sum, bottom, top⟩ : ∃ biased : Nat, exponent = biased - 1075 ∧ 0 < biased ∧
      biased < 2047 := ⟨(exponent + 1075).toNat, by omega, by omega, by omega⟩
  have lower := Nat.log2_self_le positive.ne'
  have upper := @Nat.lt_log2_self mantissa
  rw [leading] at lower upper
  have field : (BitVec.ofNat 11 biased).toNat = biased := Nat.mod_eq_of_lt (by omega)
  have notZeros : BitVec.ofNat 11 biased ≠ 0#11 := by
    rw [ne_eq, ← BitVec.toNat_inj, field]
    exact bottom.ne'
  have notOnes : BitVec.ofNat 11 biased ≠ -1#11 := by
    rw [ne_eq, ← BitVec.toNat_inj, field]
    exact top.ne
  have low : mantissa % 2 ^ 52 < 2 ^ 52 := Nat.mod_lt _ (Nat.two_pow_pos 52)
  have implicit : (1#1 ++ BitVec.ofNat 52 mantissa).toNat = mantissa := by
    rw [BitVec.toNat_append]
    change 1 <<< 52 ||| mantissa % 2 ^ 52 = mantissa
    rw [← Nat.shiftLeft_add_eq_or_of_lt low]
    omega
  have place : (exponent + Format.binary64.exponentBias +
      Format.binary64.mantissaBitsWithoutImplicit).toNat = biased := by
    change (exponent + 1023 + 52).toNat = biased
    omega
  have back : (biased : Int) - (Format.binary64.exponentBias +
      Format.binary64.mantissaBitsWithoutImplicit) = exponent := by
    change (biased : Int) - (1023 + 52) = exponent
    omega
  have packed : UnpackedFloat.pack .binary64 (.finite sign mantissa exponent positive) =
      packComponents .binary64 sign (BitVec.ofNat 11 biased) (BitVec.ofNat 52 mantissa) := by
    rw [UnpackedFloat.pack, place, if_neg (show ¬ 2 ^ 11 ≤ biased + 1 by omega),
      if_pos (leading ▸ rfl : mantissa.log2 + 1 = Format.binary64.mantissaBits)]
  simp only [packed, UnpackedFloat.unpack, unpackExponent_packComponents,
    unpackMantissa_packComponents, unpackSign_packComponents, Sign.ofBitVec_toBitVec, notOnes,
    notZeros, if_false, field, back, implicit]

end Rounding

/-- A number is the natural number. -/
structure IsNatural (number : Number) (natural : Nat) : Prop where
  whole : number.whole? = some (.integer natural)
  isWhole : number.IsWhole

/-- Fields as they are packed have the value of the natural number. -/
inductive StandFor : UnpackedFloat → Nat → Prop where
  | zero {sign : Sign} : StandFor (.zero sign) 0
  | finite {mantissa natural : Nat} {exponent : Int} {positive : 0 < mantissa} :
      mantissa.log2 = 52 → -1074 ≤ exponent → exponent ≤ 971 →
      mantissa * 2 ^ (exponent + 1074).toNat = natural * unitsInOne →
      StandFor (.finite .positive mantissa exponent positive) natural

section Naturals

variable {number : Number} {natural : Nat}

theorem IsNatural.standFor (exact : number.IsNatural natural) :
    StandFor number.unpacked natural := by
  have fields := number.unpacks
  obtain ⟨whole, isWhole⟩ := exact
  unfold whole? value? at whole
  generalize number.unpacked = found at fields
  cases fields with
  | notANumber unordered => simp [unordered] at whole
  | infinity valued infinite => simp [valued, infinite] at whole
  | zero valued finite unitless =>
      have same : signed number.isNegative 0 = natural := by
        simpa [valued, finite, unitless] using whole
      have vanishes : natural = 0 := by
        cases negative : number.isNegative <;> simp only [signed, negative] at same <;> omega
      exact vanishes ▸ .zero
  | @finite mantissa exponent positive valued finite units small least most leading =>
      have same : signed number.isNegative (number.units / unitsInOne) = natural := by
        simpa [valued, finite] using whole
      obtain ⟨size, product⟩ := isWhole valued finite
      rw [product, Nat.mul_div_cancel_left _ unitsInOne_pos] at same
      have magnitude : 0 < mantissa * 2 ^ (exponent + 1074).toNat :=
        Nat.mul_pos positive (Nat.two_pow_pos _)
      have notZero : size ≠ 0 := by
        rintro rfl
        omega
      have nonnegative : number.isNegative = false := by
        cases negative : number.isNegative with
        | false => rfl
        | true =>
            simp only [signed, negative, if_true] at same
            omega
      have size_eq : size = natural := by
        simpa [signed, nonnegative] using same
      rw [sign, nonnegative]
      rw [product, size_eq] at units
      have one : 2 ^ 53 ≤ unitsInOne := two_pow_le_unitsInOne (by decide)
      refine .finite ?_ least most (by rw [← units, Nat.mul_comm])
      rw [Nat.log2_eq_iff positive.ne']
      refine ⟨leading.resolve_right ?_, small⟩
      rintro rfl
      have whole := Nat.le_mul_of_pos_right unitsInOne (Nat.pos_of_ne_zero (size_eq ▸ notZero))
      simp at units
      omega

theorem StandFor.isNatural (fields : StandFor number.unpacked natural) :
    number.IsNatural natural := by
  have parts := number.unpacks
  generalize number.unpacked = found at parts fields
  cases fields with
  | zero =>
      cases parts with
      | zero valued finite unitless =>
          constructor
          · cases negative : number.isNegative <;>
              simp [whole?, value?, valued, finite, unitless, signed, negative]
          · exact fun _ _ => unitless ▸ Nat.dvd_zero _
  | finite _ _ _ same =>
      generalize given : Sign.positive = sign at parts
      cases parts with
      | finite valued finite units =>
          have nonnegative : number.isNegative = false := by
            cases negative : number.isNegative with
            | false => rfl
            | true => simp [Number.sign, negative] at given
          rw [same] at units
          constructor
          · simp [whole?, value?, valued, finite, units, signed, nonnegative,
              Nat.mul_div_cancel _ unitsInOne_pos]
          · exact fun _ _ => units ▸ Nat.dvd_mul_left _ _

/-- Rounding keeps the value of a natural number, and packing keeps the fields. -/
theorem standFor_round {magnitude : Nat} {place : Int} (positive : 0 < natural)
    (small : natural < 2 ^ 53) (low : -1074 ≤ place)
    (same : magnitude * 2 ^ (place + 1074).toNat = natural * unitsInOne) :
    StandFor (UnpackedFloat.unpack .binary64 (UnpackedFloat.pack .binary64
      (UnpackedFloat.round .binary64 .positive magnitude place))) natural := by
  have log : natural.log2 < 53 := (Nat.log2_lt positive.ne').mpr small
  obtain ⟨places, sum⟩ : ∃ places, natural.log2 + places = 52 := ⟨52 - natural.log2, by omega⟩
  have leading : (natural * 2 ^ places).log2 = 52 := by
    rw [log2_mul_two_pow positive.ne', sum]
  have value : natural * 2 ^ places * 2 ^ (-(places : Int) + 1074).toNat =
      natural * unitsInOne := by
    rw [Nat.mul_assoc, unitsInOne_eq (by omega : places + (-(places : Int) + 1074).toNat = 1074)]
  rw [round_exact leading (by omega) low (same.trans value.symm),
    unpack_pack leading (by omega) (by omega)]
  exact .finite leading (by omega) (by omega) value

theorem unpacked_one : one.unpacked = .finite .positive (2 ^ 52) (-52) (by decide) := rfl

theorem standFor_ofUInt64 (small : natural < 2 ^ 53) :
    StandFor natural.toUInt64.toFloat.toModel.unpack natural := by
  have word : natural.toUInt64.toNat = natural :=
    UInt64.toNat_ofNat_of_lt' (small.trans (by decide))
  change StandFor (UnpackedFloat.unpack .binary64 (UnpackedFloat.pack .binary64
    (UnpackedFloat.normalize .binary64 natural.toUInt64.toNat 0 .positive))) natural
  rw [word]
  rcases natural.eq_zero_or_pos with rfl | positive
  · exact .zero
  · have sign : compare (natural : Int) 0 = .gt := compare_gt_iff_gt.mpr (by omega)
    have unit : natural * 2 ^ ((0 : Int) + 1074).toNat = natural * unitsInOne := by
      rw [unitsInOne_eq (by decide : 0 + ((0 : Int) + 1074).toNat = 1074), Nat.pow_zero,
        Nat.one_mul]
    simp only [UnpackedFloat.normalize, sign]
    exact standFor_round positive small (by decide) unit

theorem isNatural_ofNat (small : natural < 2 ^ 53) : (ofNat natural).IsNatural natural := by
  apply StandFor.isNatural
  have product : ofNat natural = ofFloat (natural.toUInt64.toFloat * one.toFloat) := by
    rw [ofNat, Float.ofScientific, dif_pos ⟨small, by decide⟩]
    rfl
  have packed : (ofFloat (natural.toUInt64.toFloat * one.toFloat)).unpacked =
      UnpackedFloat.unpack .binary64 (UnpackedFloat.pack .binary64 (UnpackedFloat.mul .binary64
        natural.toUInt64.toFloat.toModel.unpack one.toFloat.toModel.unpack)) := rfl
  have fields := standFor_ofUInt64 small
  rw [product, packed, unpack_toFloat, unpacked_one]
  generalize natural.toUInt64.toFloat.toModel.unpack = found at fields
  cases fields with
  | @zero sign => cases sign <;> exact .zero
  | @finite mantissa _ exponent _ leading least most value =>
      have kept := @roundWithAccuracy_exact mantissa exponent .positive leading least 52
      have rounded : UnpackedFloat.mul .binary64 (.finite .positive mantissa exponent ‹_›)
          (.finite .positive (2 ^ 52) (-52) (by decide)) =
            .finite .positive mantissa exponent ‹_› := kept
      rw [rounded, unpack_pack leading least most]
      exact .finite leading least most value

theorem decreaseExponent_fst {mantissa : Nat} {exponent place : Int} (least : -1074 ≤ place)
    (below : place ≤ exponent) :
    (decreaseExponent mantissa exponent place).1 * 2 ^ (place + 1074).toNat =
      mantissa * 2 ^ (exponent + 1074).toNat := by
  have split : (exponent + 1074).toNat = (exponent - place).toNat + (place + 1074).toNat := by
    omega
  rw [decreaseExponent, Nat.shiftLeft_eq, split, Nat.pow_add, Nat.mul_assoc]

theorem standFor_sub {left right : UnpackedFloat} {first second : Nat}
    (leftFields : StandFor left first) (rightFields : StandFor right second)
    (ordered : second ≤ first) (small : first < 2 ^ 53) :
    StandFor (UnpackedFloat.unpack .binary64 (UnpackedFloat.pack .binary64
      (UnpackedFloat.sub .binary64 left right))) (first - second) := by
  cases leftFields with
  | @zero sign =>
      cases rightFields with
      | @zero other => cases sign <;> cases other <;> exact .zero
      | @finite mantissa _ exponent positive _ _ _ value =>
          have magnitude := Nat.mul_pos positive (Nat.two_pow_pos (exponent + 1074).toNat)
          rw [Nat.le_zero.mp ordered] at value
          omega
  | @finite mantissa _ exponent positive leading least most value =>
      cases rightFields with
      | zero =>
          rw [UnpackedFloat.sub, unpack_pack leading least most]
          exact .finite leading least most value
          all_goals simp
      | @finite other _ further _ _ otherLeast _ otherValue =>
          have low : -1074 ≤ min exponent further := by omega
          have minuend := @decreaseExponent_fst mantissa exponent _ low (by omega)
          have subtrahend := @decreaseExponent_fst other further _ low (by omega)
          rw [UnpackedFloat.sub]
          dsimp only [Sign.apply]
          rw [value] at minuend
          rw [otherValue] at subtrahend
          generalize (decreaseExponent mantissa exponent (min exponent further)).1 = more at *
          generalize (decreaseExponent other further (min exponent further)).1 = less at *
          rcases ordered.eq_or_lt with rfl | strict
          · have same : more = less :=
              Nat.eq_of_mul_eq_mul_right (Nat.two_pow_pos _) (minuend.trans subtrahend.symm)
            have sign : compare ((more : Int) - less) 0 = .eq :=
              compare_eq_iff_eq.mpr (by omega)
            rw [UnpackedFloat.normalize, sign, Nat.sub_self]
            change StandFor (UnpackedFloat.unpack .binary64 (packedZero .binary64 .positive)) 0
            rw [unpack_packedZero]
            exact .zero
          · have above : less < more := by
              have scaled := Nat.mul_lt_mul_of_pos_right strict unitsInOne_pos
              rw [← minuend, ← subtrahend] at scaled
              exact Nat.lt_of_mul_lt_mul_right scaled
            have sign : compare ((more : Int) - less) 0 = .gt := compare_gt_iff_gt.mpr (by omega)
            have amount : ((more : Int) - less).toNat = more - less := by omega
            rw [UnpackedFloat.normalize, sign, amount]
            refine standFor_round (by omega) (by omega) low ?_
            rw [Nat.sub_mul, minuend, subtrahend, Nat.sub_mul]

theorem StandFor.isNaN_eq_false {fields : UnpackedFloat} (standFor : StandFor fields natural) :
    fields.isNaN = false := by
  cases standFor <;> rfl

theorem IsNatural.isNaN_eq_false (exact : number.IsNatural natural) : number.isNaN = false := by
  have whole := exact.whole
  cases unordered : number.isNaN with
  | false => rfl
  | true => simp [whole?, value?, unordered] at whole

/-- A difference of natural numbers that is one is exact. -/
theorem isNatural_sub {left right : Number} {first second : Nat} (leftExact : left.IsNatural first)
    (rightExact : right.IsNatural second) (ordered : second ≤ first) (small : first < 2 ^ 53) :
    (left - right).IsNatural (first - second) := by
  have fields := standFor_sub leftExact.standFor rightExact.standFor ordered small
  rw [← unpack_toFloat left, ← unpack_toFloat right] at fields
  have valued : (left.toFloat - right.toFloat).isNaN = false := fields.isNaN_eq_false
  have exact : left - right = ofFloat (left.toFloat - right.toFloat) := by
    change combine (· - ·) left right = _
    simp only [combine, leftExact.isNaN_eq_false, rightExact.isNaN_eq_false, valued,
      Bool.false_eq_true, if_false]
  rw [exact]
  exact StandFor.isNatural fields

theorem toNat_of_isNatural (exact : number.IsNatural natural) (small : natural < 2 ^ 64) :
    number.toNat = natural := toNat_of_whole exact.whole small

/-- A number without a value has no difference to another. -/
theorem isNaN_sub {left right : Number} (unordered : left.isNaN = true ∨ right.isNaN = true) :
    (left - right).isNaN = true := by
  change (combine (· - ·) left right).isNaN = true
  rw [combine]
  split_ifs with leftNaN rightNaN
  · exact isNaN_quiet leftNaN
  · exact isNaN_quiet rightNaN
  · rcases unordered with absent | absent <;> contradiction

end Naturals

/-- A number is the integer. -/
structure IsInteger (number : Number) (integer : Int) : Prop where
  whole : number.whole? = some (.integer integer)
  isWhole : number.IsWhole

section Integers

variable {number : Number} {integer : Int}

theorem toNat_negate (number : Number) :
    number.negate.bits.toNat % 2 ^ 63 = number.bits.toNat % 2 ^ 63 ∧
      number.negate.bits.toNat / 2 ^ 63 = 1 - number.bits.toNat / 2 ^ 63 := by
  have flipped : number.negate.bits.toNat = number.bits.toNat ^^^ 2 ^ 63 :=
    UInt64.toNat_xor number.bits 0x8000000000000000
  have bound := number.bits.toNat_lt
  rw [flipped, Nat.xor_mod_two_pow, Nat.xor_div_two_pow]
  constructor
  · simp
  · obtain clear | set : number.bits.toNat / 2 ^ 63 = 0 ∨ number.bits.toNat / 2 ^ 63 = 1 := by omega
    · rw [clear]
      rfl
    · rw [set]
      rfl

theorem fields_negate (number : Number) :
    number.negate.isNegative = !number.isNegative ∧
      number.negate.biasedExponent = number.biasedExponent ∧
      number.negate.fraction = number.fraction := by
  obtain ⟨below, sign⟩ := number.toNat_negate
  have bound := number.bits.toNat_lt
  refine ⟨?_, ?_, ?_⟩
  · rw [isNegative_eq, isNegative_eq, sign, ← decide_not, decide_eq_decide]
    omega
  · rw [biasedExponent_eq, biasedExponent_eq, below]
  · rw [fraction, fraction]
    omega

theorem signed_not (negative : Bool) (magnitude : Nat) :
    signed (!negative) magnitude = -signed negative magnitude := by
  cases negative <;> simp [signed]

theorem whole?_eq_integer_iff :
    number.whole? = some (.integer integer) ↔ number.isNaN = false ∧ number.isInfinite = false ∧
      signed number.isNegative (number.units / unitsInOne) = integer := by
  unfold whole? value?
  split_ifs with unordered infinite
  · simp [unordered]
  · simp [unordered, infinite]
  · simp [unordered, infinite]

theorem IsInteger.negate (exact : number.IsInteger integer) :
    number.negate.IsInteger (-integer) := by
  obtain ⟨whole, isWhole⟩ := exact
  obtain ⟨sign, exponent, fraction⟩ := number.fields_negate
  have units : number.negate.units = number.units := by
    rw [Number.units, Number.units, exponent, fraction]
  have valued : number.negate.isNaN = number.isNaN := by
    rw [isNaN_eq, isNaN_eq, exponent, fraction]
  have finite : number.negate.isInfinite = number.isInfinite := by
    rw [isInfinite_eq, isInfinite_eq, exponent, fraction]
  constructor
  · rw [whole?_eq_integer_iff] at whole ⊢
    rwa [valued, finite, units, sign, signed_not, neg_inj]
  · unfold IsWhole
    rwa [valued, finite, units]

theorem isInteger_ofInt (small : integer.natAbs < 2 ^ 53) : (ofInt integer).IsInteger integer := by
  cases integer with
  | ofNat natural =>
      obtain ⟨whole, isWhole⟩ := isNatural_ofNat small
      exact ⟨whole, isWhole⟩
  | negSucc natural =>
      obtain ⟨whole, isWhole⟩ := @isNatural_ofNat (natural + 1) small
      exact @IsInteger.negate _ (natural + 1 : Nat) ⟨whole, isWhole⟩

end Integers

end Number

end Verdict
