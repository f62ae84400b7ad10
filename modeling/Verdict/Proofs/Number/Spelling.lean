import Mathlib.Data.List.TakeWhile
import Verdict.Number.Layout
import Verdict.Number.Numeral

/-! A number in a rule is written as a plain numeral: digits, perhaps a point and digits, no
exponent. Such a numeral is scanned back whole, and what reads the text reads its value. -/

set_option autoImplicit false

namespace Verdict

namespace Text

variable {kept : Char → Bool} {text rest : List Char}

/-- The longest front of kept characters is exactly the text that the next character ends. -/
theorem takeWhile_append (keeps : ∀ character ∈ text, kept character = true)
    (ends : ∀ character ∈ rest.head?, kept character = false) :
    (text ++ rest).takeWhile kept = text := by
  rw [List.takeWhile_append_of_pos keeps]
  cases rest with
  | nil => simp
  | cons first behind => simp [ends first rfl]

theorem dropWhile_append (keeps : ∀ character ∈ text, kept character = true)
    (ends : ∀ character ∈ rest.head?, kept character = false) :
    (text ++ rest).dropWhile kept = rest := by
  rw [List.dropWhile_append_of_pos keeps]
  cases rest with
  | nil => simp
  | cons first behind => simp [ends first rfl]

end Text

/-- A row of at least one decimal digit. -/
structure IsDigits (text : List Char) : Prop where
  nonempty : text ≠ []
  digits : ∀ character ∈ text, character.isDigit = true

namespace IsDigits

variable {left right text rest : List Char}

theorem append (leftDigits : IsDigits left)
    (rightDigits : ∀ character ∈ right, character.isDigit = true) : IsDigits (left ++ right) := by
  refine ⟨by simp [leftDigits.nonempty], ?_⟩
  intro character member
  rcases List.mem_append.mp member with before | behind
  · exact leftDigits.digits character before
  · exact rightDigits character behind

theorem takeWhile_append (digits : IsDigits text)
    (ends : ∀ character ∈ rest.head?, character.isDigit = false) :
    (text ++ rest).takeWhile Char.isDigit = text :=
  Text.takeWhile_append digits.digits ends

theorem dropWhile_append (digits : IsDigits text)
    (ends : ∀ character ∈ rest.head?, character.isDigit = false) :
    (text ++ rest).dropWhile Char.isDigit = rest :=
  Text.dropWhile_append digits.digits ends

theorem takeWhile_self (digits : IsDigits text) : text.takeWhile Char.isDigit = text :=
  List.takeWhile_eq_self_iff.mpr digits.digits

theorem dropWhile_self (digits : IsDigits text) : text.dropWhile Char.isDigit = [] :=
  List.dropWhile_eq_nil_iff.mpr digits.digits

theorem exists_cons (digits : IsDigits text) :
    ∃ first behind, text = first :: behind ∧ first.isDigit = true := by
  cases text with
  | nil => exact absurd rfl digits.nonempty
  | cons first behind => exact ⟨first, behind, rfl, digits.digits first (by simp)⟩

end IsDigits

theorem ne_of_isDigit {character other : Char} (digit : character.isDigit = true)
    (notDigit : other.isDigit = false) : character ≠ other := by
  rintro rfl
  rw [notDigit] at digit
  cases digit

theorem isDigits_toString (count : Nat) : IsDigits (toString count).toList := by
  rw [Nat.toString_eq_repr, Nat.toList_repr]
  exact ⟨Nat.toDigits_ne_nil, fun _ member =>
    Nat.isDigit_of_mem_toDigits (by decide) (by decide) member⟩

namespace Numeral

/-- A numeral without an exponent, as a number in a rule is written. -/
structure Plain (numeral : Numeral) : Prop where
  whole : IsDigits numeral.whole
  fraction : ∀ digits ∈ numeral.fraction, IsDigits digits
  exponent : numeral.exponent = none

/-- The point and the digits behind it, if there are any. -/
def pointText : Option (List Char) → List Char
  | some digits => '.' :: digits
  | none => []

/-- The unsigned part of the text of a plain numeral. -/
def plainText (numeral : Numeral) : List Char := numeral.whole ++ pointText numeral.fraction

theorem Plain.text_eq {numeral : Numeral} (plain : numeral.Plain) :
    numeral.text = (if numeral.negative then ['-'] else []) ++ numeral.plainText := by
  obtain ⟨negative, whole, fraction, exponent⟩ := numeral
  obtain rfl : exponent = none := plain.exponent
  cases fraction with
  | none => simp [text, plainText, pointText]
  | some digits => simp [text, plainText, pointText]

/-- What may stand behind a plain numeral so that the numeral ends there. -/
def Ends (rest : List Char) : Prop :=
  ∀ character ∈ rest.head?,
    character.isDigit = false ∧ character ≠ '.' ∧ character ≠ 'e' ∧ character ≠ 'E'

private theorem scanExponent_of_ends {rest : List Char} (ends : Ends rest) :
    ExponentPart.scan rest = (none, rest) := by
  cases rest with
  | nil => rfl
  | cons first behind =>
      obtain ⟨-, -, lower, upper⟩ := ends first rfl
      simp [ExponentPart.scan, lower, upper]

private theorem scanFraction_of_ends {rest : List Char} (ends : Ends rest) :
    scanFraction rest = (none, rest) := by
  cases rest with
  | nil => rfl
  | cons first behind =>
      obtain ⟨-, point, -, -⟩ := ends first rfl
      unfold scanFraction
      split
      · rename_i same
        exact absurd (List.cons.inj same).1 point
      · rfl

private theorem Plain.scanUnsigned {numeral : Numeral} {rest : List Char} (plain : numeral.Plain)
    (ends : Ends rest) :
    scanUnsigned numeral.negative (numeral.plainText ++ rest) = some (numeral, rest) := by
  obtain ⟨negative, whole, fraction, exponent⟩ := numeral
  obtain ⟨wholeDigits, fractionDigits, noExponent⟩ := plain
  simp only at wholeDigits fractionDigits noExponent
  subst noExponent
  cases fraction with
  | none =>
      have stops : ∀ character ∈ rest.head?, character.isDigit = false :=
        fun character member => (ends character member).1
      simp [Numeral.scanUnsigned, plainText, pointText, wholeDigits.takeWhile_append stops,
        wholeDigits.dropWhile_append stops, wholeDigits.nonempty, scanFraction_of_ends ends,
        scanExponent_of_ends ends]
  | some digits =>
      have pointStops : ∀ character ∈ ('.' :: (digits ++ rest)).head?,
          character.isDigit = false := by
        intro character member
        obtain rfl : '.' = character := by simpa using member
        decide
      have stops : ∀ character ∈ rest.head?, character.isDigit = false :=
        fun character member => (ends character member).1
      have read := fractionDigits digits rfl
      have fractionScan : scanFraction ('.' :: (digits ++ rest)) = (some digits, rest) := by
        simp [scanFraction, read.takeWhile_append stops, read.dropWhile_append stops,
          read.nonempty]
      simp only [Numeral.scanUnsigned, plainText, pointText, List.append_assoc, List.cons_append,
        wholeDigits.takeWhile_append pointStops, wholeDigits.dropWhile_append pointStops,
        fractionScan, scanExponent_of_ends ends]
      simp [wholeDigits.nonempty]

theorem Plain.scan {numeral : Numeral} {rest : List Char} (plain : numeral.Plain)
    (ends : Ends rest) : scan (numeral.text ++ rest) = some (numeral, rest) := by
  have unsigned := plain.scanUnsigned ends
  rw [plain.text_eq]
  cases sign : numeral.negative with
  | true =>
      rw [sign] at unsigned
      simpa [Numeral.scan] using unsigned
  | false =>
      rw [sign] at unsigned
      obtain ⟨first, behind, split, digit⟩ := plain.whole.exists_cons
      have noMinus := ne_of_isDigit digit (by decide : '-'.isDigit = false)
      simpa [Numeral.scan, plainText, split, noMinus] using unsigned

private theorem toLower_of_isDigit {character : Char} (digit : character.isDigit = true) :
    character.toLower = character := by
  have small : character.val ≤ 57 := by
    simp only [Char.isDigit, Bool.and_eq_true, decide_eq_true_eq] at digit
    exact digit.2
  unfold Char.toLower
  rw [dif_neg]
  intro upper
  exact absurd (UInt32.le_trans upper.1 small) (by decide)

private theorem Plain.map_toLower_ne {numeral : Numeral} (plain : numeral.Plain) {letter : Char}
    (isLetter : letter.isDigit = false) (word : List Char) :
    numeral.plainText.map Char.toLower ≠ letter :: word := by
  intro same
  obtain ⟨first, behind, split, digit⟩ := plain.whole.exists_cons
  rw [plainText, split, List.cons_append, List.map_cons, toLower_of_isDigit digit] at same
  exact ne_of_isDigit digit isLetter (List.cons.inj same).1

private theorem Plain.readUnsigned? {numeral : Numeral} (plain : numeral.Plain) :
    Number.readUnsigned? numeral.plainText =
      some (Number.ofDecimal numeral.significand numeral.tens) := by
  have infinity : "infinity".toList = 'i' :: ['n', 'f', 'i', 'n', 'i', 't', 'y'] := by decide
  have notShort := plain.map_toLower_ne (by decide : 'i'.isDigit = false) ['n', 'f']
  have notLong := plain.map_toLower_ne (by decide : 'i'.isDigit = false)
    ['n', 'f', 'i', 'n', 'i', 't', 'y']
  have notNan := plain.map_toLower_ne (by decide : 'n'.isDigit = false) ['a', 'n']
  obtain ⟨negative, whole, fraction, exponent⟩ := numeral
  obtain rfl : exponent = none := plain.exponent
  have wholeDigits : IsDigits whole := plain.whole
  simp only [Number.readUnsigned?, infinity, notShort, notLong, notNan, decide_false,
    Bool.or_false, Bool.false_eq_true, if_false]
  cases fraction with
  | none =>
      simp [plainText, pointText, wholeDigits.takeWhile_self, wholeDigits.dropWhile_self,
        wholeDigits.nonempty, ExponentPart.scan, significand, tens]
  | some digits =>
      have fractionDigits : IsDigits digits := plain.fraction digits rfl
      have pointStops : ∀ character ∈ ('.' :: digits).head?, character.isDigit = false := by
        simp
      simp [plainText, pointText, wholeDigits.takeWhile_append pointStops,
        wholeDigits.dropWhile_append pointStops, fractionDigits.takeWhile_self,
        fractionDigits.dropWhile_self, wholeDigits.nonempty, ExponentPart.scan, significand, tens]

theorem Plain.read? {numeral : Numeral} (plain : numeral.Plain) :
    Number.read? (String.ofList numeral.text) = some numeral.value := by
  have unsigned := plain.readUnsigned?
  rw [plain.text_eq]
  cases sign : numeral.negative with
  | true => simp [Number.read?, Numeral.value, sign, unsigned]
  | false =>
      obtain ⟨first, behind, split, digit⟩ := plain.whole.exists_cons
      have noMinus := ne_of_isDigit digit (by decide : '-'.isDigit = false)
      have noPlus := ne_of_isDigit digit (by decide : '+'.isDigit = false)
      rw [plainText, split] at unsigned
      simpa [Number.read?, Numeral.value, sign, plainText, split, noMinus, noPlus] using unsigned

end Numeral

private theorem isDigits_zero : IsDigits ['0'] := ⟨by simp, List.all_eq_true.mp rfl⟩

private theorem isDigits_replicate_zero (count : Nat) :
    ∀ character ∈ List.replicate count '0', character.isDigit = true := by
  intro character member
  rw [List.eq_of_mem_replicate member]
  decide

private theorem positionalText_plain {digits : List Char} (isDigits : IsDigits digits)
    (whole : Int) (negative : Bool) :
    ∃ numeral : Numeral, numeral.Plain ∧ numeral.negative = negative ∧
      Layout.positionalText false digits whole = numeral.plainText := by
  cases whole with
  | ofNat count =>
      by_cases leading : count = 0
      · subst leading
        exact ⟨⟨negative, ['0'], some digits, .none⟩, ⟨isDigits_zero, by simpa using isDigits, rfl⟩,
          rfl, rfl⟩
      · by_cases short : digits.length ≤ count
        · refine ⟨⟨negative, digits ++ List.replicate (count - digits.length) '0', .none, .none⟩,
            ⟨isDigits.append (isDigits_replicate_zero _), by simp, rfl⟩, rfl, ?_⟩
          simp [Layout.positionalText, leading, short, Numeral.plainText, Numeral.pointText]
        · refine ⟨⟨negative, digits.take count, some (digits.drop count), .none⟩,
            ⟨⟨?_, ?_⟩, ?_, rfl⟩, rfl, ?_⟩
          · simp [leading, isDigits.nonempty]
          · exact fun character member => isDigits.digits character (List.mem_of_mem_take member)
          · rintro fraction ⟨rfl⟩
            refine ⟨by simpa using short, ?_⟩
            exact fun character member => isDigits.digits character (List.mem_of_mem_drop member)
          · simp [Layout.positionalText, leading, short, Numeral.plainText, Numeral.pointText]
  | negSucc missing =>
      refine ⟨⟨negative, ['0'], some (List.replicate (missing + 1) '0' ++ digits), .none⟩,
        ⟨isDigits_zero, ?_, rfl⟩, rfl, rfl⟩
      rintro fraction ⟨rfl⟩
      exact IsDigits.append ⟨by simp, isDigits_replicate_zero _⟩ isDigits.digits

private theorem decimalText_plain (decimal : Decimal) (negative : Bool) :
    ∃ numeral : Numeral, numeral.Plain ∧ numeral.negative = negative ∧
      Number.plainLayout.decimalText decimal = numeral.plainText := by
  by_cases zero : decimal.digits = 0
  · refine ⟨⟨negative, ['0'], none, none⟩, ⟨isDigits_zero, by simp, rfl⟩, rfl, ?_⟩
    simp [Layout.decimalText, Number.plainLayout, zero, Numeral.plainText, Numeral.pointText]
  · simpa [Layout.decimalText, Number.plainLayout, zero] using
      positionalText_plain (isDigits_toString decimal.digits) _ negative

theorem Number.display_plain {number : Number} (finite : number.isFinite = true) :
    ∃ numeral : Numeral, numeral.Plain ∧ number.display = String.ofList numeral.text := by
  have notNaN : number.isNaN = false := by
    simp only [Number.isFinite, Number.isNaN, decide_eq_true_eq, decide_eq_false_iff_not] at *
    exact UInt64.not_lt.mpr (UInt64.le_of_lt finite)
  have notInfinite : number.isInfinite = false := by
    simp only [Number.isFinite, Number.isInfinite, decide_eq_true_eq, beq_eq_false_iff_ne] at *
    exact UInt64.ne_of_lt finite
  obtain ⟨numeral, plain, sign, spelled⟩ :=
    decimalText_plain (number.shortest .up) number.isNegative
  refine ⟨numeral, plain, ?_⟩
  rw [plain.text_eq, sign, ← spelled]
  cases negative : number.isNegative with
  | true =>
      simp [Number.display, Layout.render, notNaN, notInfinite, negative, Number.plainLayout,
        String.ofList_cons]
  | false => simp [Number.display, Layout.render, notNaN, notInfinite, negative, Number.plainLayout]

/-- The law of the decimal text of a number: it reads back to the same bits. -/
def Number.ReadsBack (number : Number) : Prop := Number.read? number.display = some number

/-- Wherever a finite number that reads back is written, it is scanned whole and keeps its value. -/
theorem Number.scan_display {number : Number} {rest : List Char} (finite : number.isFinite = true)
    (readsBack : number.ReadsBack) (ends : Numeral.Ends rest) :
    ∃ numeral, Numeral.scan (number.display.toList ++ rest) = some (numeral, rest) ∧
      numeral.value = number := by
  obtain ⟨numeral, plain, spelled⟩ := Number.display_plain finite
  refine ⟨numeral, ?_, ?_⟩
  · rw [spelled, String.toList_ofList]
    exact plain.scan ends
  · rw [Number.ReadsBack, spelled, plain.read?] at readsBack
    exact Option.some.inj readsBack

end Verdict
