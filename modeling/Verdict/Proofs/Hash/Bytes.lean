import Verdict.Hash.Murmur
import Verdict.Proofs.Session.Silence
import Verdict.Proofs.Value.Hashing
import Verdict.Registry.Discovery
import Verdict.Rule.Parser

/-! The bytes under which data are hashed, against equality. A number enters by its own bits and not
by its canonical ones, and lists and objects enter by their text, in which a zero keeps its sign. So
equal data are hashed alike up to the signs of their zeros and, for a bare number, up to the bits of
its NaN. -/

set_option autoImplicit false

namespace Verdict

namespace Hash

theorem toNat_wordByte (word : UInt64) {index : Nat} (inside : index < 8) :
    (word >>> (8 * UInt64.ofNat index)).toUInt8.toNat = word.toNat / 256 ^ index % 256 := by
  have shift : (8 * UInt64.ofNat index).toNat = 8 * index := by
    rw [UInt64.toNat_mul, UInt64.toNat_ofNat']
    simp
    omega
  have power : 2 ^ (8 * index) = 256 ^ index := Nat.pow_mul 2 8 index
  rw [UInt64.toNat_toUInt8, UInt64.toNat_shiftRight, shift,
    Nat.mod_eq_of_lt (show 8 * index < 64 by omega), Nat.shiftRight_eq_div_pow, power]

theorem eq_of_bytes {count left right : Nat} (leftBound : left < 256 ^ count)
    (rightBound : right < 256 ^ count)
    (bytes : ∀ index < count, left / 256 ^ index % 256 = right / 256 ^ index % 256) :
    left = right := by
  induction count generalizing left right with
  | zero => omega
  | succ count ih =>
      have lowest : left % 256 = right % 256 := by simpa using bytes 0 (by omega)
      have others : left / 256 = right / 256 := by
        refine ih (by omega) (by omega) fun index inside => ?_
        simpa [Nat.div_div_eq_div_mul, Nat.pow_succ'] using bytes (index + 1) (by omega)
      omega

theorem wordBytes_injective : Function.Injective wordBytes := by
  intro left right same
  have each := List.map_inj_left.mp same
  have bound (word : UInt64) : word.toNat < 256 ^ 8 := word.toNat_lt
  refine UInt64.toNat_inj.mp (eq_of_bytes (bound left) (bound right) fun index inside => ?_)
  rw [← toNat_wordByte left inside, ← toNat_wordByte right inside]
  exact congrArg UInt8.toNat (each index (List.mem_range.mpr inside))

theorem loop_toList (bytes : ByteArray) (index : Nat) (taken : List UInt8) :
    ByteArray.toList.loop bytes index taken = taken.reverse ++ bytes.data.toList.drop index := by
  fun_induction ByteArray.toList.loop bytes index taken with
  | case1 index taken inside ih =>
      have byte : bytes.get! index = bytes.data.toList[index] := by
        rw [Array.getElem_toList]
        exact getElem!_pos bytes.data index inside
      rw [ih, List.drop_eq_getElem_cons inside, byte]
      simp
  | case2 index taken outside =>
      rw [List.drop_eq_nil_of_le (Nat.le_of_not_lt outside), List.append_nil]

theorem toUTF8_injective : Function.Injective fun text : String => text.toUTF8.toList := by
  intro left right same
  have toList (bytes : ByteArray) : bytes.toList = bytes.data.toList := loop_toList bytes 0 []
  simp only [toList] at same
  exact String.toByteArray_inj.mp (ByteArray.ext (Array.toList_inj.mp same))

end Hash

namespace Number

theorem isZero_of_isNaN {number : Number} (valueless : number.isNaN = true) :
    number.isZero = false := by
  rw [← Bool.not_eq_true, isZero_iff]
  rintro (rfl | rfl) <;> exact absurd valueless (by decide)

theorem canonicalBits_of_isNaN {number : Number} (valueless : number.isNaN = true) :
    number.canonicalBits = nan.bits := by
  simp [canonicalBits, isZero_of_isNaN valueless, valueless]

theorem isNaN_eq_of_canonicalBits {left right : Number}
    (equal : left.canonicalBits = right.canonicalBits) : left.isNaN = right.isNaN := by
  have nanBits {number : Number} : number.canonicalBits = nan.bits ↔ number.isNaN = true := by
    refine ⟨fun bits => ?_, canonicalBits_of_isNaN⟩
    by_contra valued
    rw [canonicalBits_of_valued (Bool.not_eq_true _ ▸ valued)] at bits
    split at bits
    · exact absurd bits (by decide)
    · obtain rfl : number = nan := congrArg mk bits
      exact valued (by decide)
  rw [Bool.eq_iff_iff, ← nanBits, ← nanBits, equal]

/-- Numbers have the same canonical bits if they are one number, two zeros or two NaNs. -/
theorem canonicalBits_eq_iff {left right : Number} :
    left.canonicalBits = right.canonicalBits ↔
      left = right ∨ left = zero ∧ right = zero.negate ∨ left = zero.negate ∧ right = zero ∨
        left.isNaN = true ∧ right.isNaN = true := by
  constructor
  · intro equal
    have alike := isNaN_eq_of_canonicalBits equal
    cases valueless : left.isNaN with
    | true => exact .inr (.inr (.inr ⟨rfl, alike ▸ valueless⟩))
    | false =>
        have same := sameValue_iff.mpr ⟨valueless, alike ▸ valueless, equal⟩
        obtain ⟨-, -, cases⟩ := sameValue_iff_eq_or_zeros.mp same
        grind
  · rintro (rfl | ⟨rfl, rfl⟩ | ⟨rfl, rfl⟩ | ⟨leftNaN, rightNaN⟩)
    · rfl
    · decide
    · decide
    · rw [canonicalBits_of_isNaN leftNaN, canonicalBits_of_isNaN rightNaN]

/-- The number itself if it is a zero. -/
def zeros (number : Number) : List Number := if number.isZero then [number] else []

theorem tells {left right : Number} (equal : left.canonicalBits = right.canonicalBits) :
    Tells left.zeros right.zeros left.display.toList right.display.toList := by
  have positive : zero.display.toList = ['0'] := by decide +kernel
  have negative : zero.negate.display.toList = ['-', '0'] := by decide +kernel
  obtain rfl | ⟨rfl, rfl⟩ | ⟨rfl, rfl⟩ | ⟨leftNaN, rightNaN⟩ := canonicalBits_eq_iff.mp equal
  · exact .refl _ _
  · refine ⟨rfl, .inr ⟨by decide, ?_⟩⟩
    rw [positive, negative]
    exact .here (by decide)
  · refine ⟨rfl, .inr ⟨by decide, ?_⟩⟩
    rw [positive, negative]
    exact .here (by decide)
  · have noZeros (number : Number) (valueless : number.isNaN = true) : number.zeros = [] := by
      simp [zeros, isZero_of_isNaN valueless]
    have text (number : Number) (valueless : number.isNaN = true) : number.display = "NaN" := by
      simp [display, Layout.render, valueless]
    rw [noZeros left leftNaN, noZeros right rightNaN, text left leftNaN, text right rightNaN]
    exact .refl _ _

end Number

namespace Datum

mutual

/-- The zeros in a datum as they follow one another: the numbers that are zero, in lists as well,
and the decimals that are zero in the documents. -/
def writtenZeros : Datum → List Number
  | .number value => value.zeros
  | .list items => itemWrittenZeros items
  | .json value => value.zeros
  | _ => []

def itemWrittenZeros : List Datum → List Number
  | [] => []
  | item :: items => writtenZeros item ++ itemWrittenZeros items

end

mutual

theorem charactersTell (left right : Datum) (equal : left.same right = true) :
    Tells left.writtenZeros right.writtenZeros left.characters right.characters := by
  cases left <;> cases right
  case null.null => exact .refl _ _
  case boolean.boolean left right =>
    obtain rfl : left = right := by simpa [same] using equal
    exact .refl _ _
  case number.number left right => exact Number.tells (by simpa [same] using equal)
  case string.string left right =>
    obtain rfl : left = right := by simpa [same] using equal
    exact .refl _ _
  case list.list lefts rights =>
    exact ((itemCharactersTell lefts rights equal).before [']']).behind ['[']
  case json.json left right => exact Json.tells left right equal
  all_goals simp [same] at equal

theorem itemCharactersTell (lefts rights : List Datum) (equal : sameItems lefts rights = true) :
    Tells (itemWrittenZeros lefts) (itemWrittenZeros rights) (itemCharacters lefts)
      (itemCharacters rights) := by
  cases lefts <;> cases rights
  case nil.nil => exact .refl _ _
  case cons.cons left lefts right rights =>
    obtain ⟨first, others⟩ := Bool.and_eq_true_iff.mp equal
    have firstTells := charactersTell left right first
    have othersTell := itemCharactersTell lefts rights others
    cases lefts <;> cases rights
    case nil.nil => simpa [itemWrittenZeros, itemCharacters] using firstTells
    case cons.cons => exact firstTells.append (othersTell.behind [',', ' '])
    all_goals simp [sameItems] at others
  all_goals simp [sameItems] at equal

end

/-- The text of equal data is the same if their zeros have the same signs. -/
theorem display_eq_iff {left right : Datum} (equal : left.same right = true) :
    left.display = right.display ↔ left.writtenZeros = right.writtenZeros := by
  rw [display, display, String.ofList_inj, (charactersTell left right equal).eq_iff]

end Datum

namespace Hash

/-- Equal data are hashed under the same bytes if the zeros in them have the same signs, with one
exception: a NaN that is no item of a list enters by its bits. -/
theorem datumBytes_eq_iff {left right : Datum} (equal : left.same right = true) :
    datumBytes left = datumBytes right ↔
      left.writtenZeros = right.writtenZeros ∧
        ∀ value other, left = .number value → right = .number other → value.isNaN = true →
          value = other := by
  cases left <;> cases right
  case null.null => exact iff_of_true rfl ⟨rfl, nofun⟩
  case boolean.boolean left right =>
    obtain rfl : left = right := by simpa [Datum.same] using equal
    exact iff_of_true rfl ⟨rfl, nofun⟩
  case string.string left right =>
    obtain rfl : left = right := by simpa [Datum.same] using equal
    exact iff_of_true rfl ⟨rfl, nofun⟩
  case number.number left right =>
    have bits : left.canonicalBits = right.canonicalBits := by simpa [Datum.same] using equal
    -- A bare number enters by its bits, so only one and the same number has the same bytes.
    have bytes : datumBytes (.number left) = datumBytes (.number right) ↔ left = right := by
      rw [datumBytes, datumBytes, wordBytes_injective.eq_iff, ← Number.mk.injEq]
    rw [bytes]
    constructor
    · rintro rfl
      exact ⟨rfl, by rintro value other ⟨⟩ ⟨⟩ -; rfl⟩
    · rintro ⟨zeros, valueless⟩
      obtain same | ⟨rfl, rfl⟩ | ⟨rfl, rfl⟩ | ⟨leftNaN, -⟩ := Number.canonicalBits_eq_iff.mp bits
      · exact same
      · exact absurd zeros (by decide)
      · exact absurd zeros (by decide)
      · exact valueless left right rfl rfl leftNaN
  case list.list lefts rights =>
    have bytes : datumBytes (.list lefts) = datumBytes (.list rights) ↔
      (Datum.list lefts).display = (Datum.list rights).display := toUTF8_injective.eq_iff
    simp [bytes, Datum.display_eq_iff equal]
  case json.json left right =>
    have bytes : datumBytes (.json left) = datumBytes (.json right) ↔
      (Datum.json left).display = (Datum.json right).display := toUTF8_injective.eq_iff
    simp [bytes, Datum.display_eq_iff equal]
  all_goals simp [Datum.same] at equal

/-- In a list two NaNs are written alike, and a zero is not. -/
theorem datumBytes_eq_iff_lists :
    let first : Datum := .list [.number .nan, .number .zero]
    let second : Datum := .list [.number .undefined, .number .zero]
    let third : Datum := .list [.number .nan, .number Number.zero.negate]
    datumBytes first = datumBytes second ∧ datumBytes first ≠ datumBytes third := by
  intro first second third
  constructor
  · exact (datumBytes_eq_iff (by decide)).mpr ⟨by decide, nofun⟩
  · exact fun same => absurd ((datumBytes_eq_iff (by decide)).mp same).1 (by decide)

/-- The two zeros are equal in rules and are hashed under different bytes, to different hashes. -/
theorem murmurHash_tells_zeros_apart :
    let positive : Datum := .number .zero
    let negative : Datum := .number Number.zero.negate
    positive.same negative = true ∧ datumBytes positive ≠ datumBytes negative ∧
    ∃ equal hashes : Rule,
      parseRule .standard "0 == -0" = .ok equal ∧
      parseRule .standard "utils.hash_m128(0) == utils.hash_m128(-0)" = .ok hashes ∧
      equal.evaluate ⟨.object [], .strict, fun _ => .zero⟩ = .ok true ∧
      hashes.evaluate ⟨.object [], .strict, fun _ => .zero⟩ = .ok false := by
  intro positive negative
  have read : (match parseRule .standard "0 == -0",
      parseRule .standard "utils.hash_m128(0) == utils.hash_m128(-0)" with
      | .ok equal, .ok hashes =>
          equal.script.quiet? (.object []) (fun _ => .zero) == some true &&
            hashes.script.quiet? (.object []) (fun _ => .zero) == some false
      | _, _ => false) = true := by decide +kernel
  refine ⟨by decide, by decide, ?_⟩
  split at read
  · rename_i equal hashes equalRead hashesRead
    obtain ⟨equalAnswers, hashesAnswer⟩ := Bool.and_eq_true_iff.mp read
    exact ⟨equal, hashes, equalRead, hashesRead,
      Rule.evaluate_strict_eq_ok_iff.mpr (beq_iff_eq.mp equalAnswers),
      Rule.evaluate_strict_eq_ok_iff.mpr (beq_iff_eq.mp hashesAnswer)⟩
  · cases read

end Hash

end Verdict
