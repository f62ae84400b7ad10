import Verdict.Number.Basic

/-!
# Numerals

A numeral is the decimal spelling of a number: an optional minus sign, digits, an optional fraction
and an optional exponent. `Numeral.scan` takes the longest numeral off the front of a text,
`Numeral.text` spells it and `Numeral.value` is the number nearest to it.
-/

set_option autoImplicit false

namespace Verdict

def digitsValue (digits : List Char) : Nat :=
  digits.foldl (fun value digit => 10 * value + (digit.toNat - '0'.toNat)) 0

structure ExponentPart where
  mark : Char
  sign : Option Char
  digits : List Char
deriving DecidableEq

namespace ExponentPart

def text (part : ExponentPart) : List Char := part.mark :: (part.sign.toList ++ part.digits)

def value (part : ExponentPart) : Int :=
  if part.sign = some '-' then -(digitsValue part.digits : Int) else digitsValue part.digits

/-- Takes an exponent off the front of a text: a mark, an optional sign and at least one digit. -/
def scan (text : List Char) : Option ExponentPart × List Char :=
  match text with
  | [] => (none, text)
  | mark :: rest =>
      if mark = 'e' || mark = 'E' then
        let (sign, tail) := match rest with
          | '+' :: tail => (some '+', tail)
          | '-' :: tail => (some '-', tail)
          | _ => (none, rest)
        let digits := tail.takeWhile Char.isDigit
        if digits.isEmpty then (none, text)
        else (some ⟨mark, sign, digits⟩, tail.dropWhile Char.isDigit)
      else (none, text)

end ExponentPart

structure Numeral where
  negative : Bool
  whole : List Char
  fraction : Option (List Char)
  exponent : Option ExponentPart
deriving DecidableEq

namespace Numeral

def text (numeral : Numeral) : List Char :=
  (if numeral.negative then ['-'] else []) ++ numeral.whole ++
    (match numeral.fraction with
      | some digits => '.' :: digits
      | none => []) ++
    (match numeral.exponent with
      | some part => part.text
      | none => [])

def scanFraction (text : List Char) : Option (List Char) × List Char :=
  match text with
  | '.' :: rest =>
      let digits := rest.takeWhile Char.isDigit
      if digits.isEmpty then (none, text) else (some digits, rest.dropWhile Char.isDigit)
  | _ => (none, text)

def scanUnsigned (negative : Bool) (text : List Char) : Option (Numeral × List Char) :=
  let whole := text.takeWhile Char.isDigit
  if whole.isEmpty then none
  else
    let (fraction, afterFraction) := scanFraction (text.dropWhile Char.isDigit)
    let (exponent, rest) := ExponentPart.scan afterFraction
    some (⟨negative, whole, fraction, exponent⟩, rest)

/-- Takes the longest numeral off the front of a text. -/
def scan (text : List Char) : Option (Numeral × List Char) :=
  match text with
  | '-' :: rest => scanUnsigned true rest
  | _ => scanUnsigned false text

def significand (numeral : Numeral) : Nat := digitsValue (numeral.whole ++ numeral.fraction.getD [])

def tens (numeral : Numeral) : Int :=
  ((numeral.exponent.map ExponentPart.value).getD 0) - (numeral.fraction.getD []).length

end Numeral

namespace Number

/-- The number nearest to `digits · 10^tens`, ties to even, infinite above the greatest number.
Exponents far outside the range of numbers are answered without computing their power of ten. -/
def ofDecimal (digits : Nat) (tens : Int) : Number :=
  if digits = 0 then zero
  else
    let log2 : Int := digits.log2
    if 310 < tens + log2 * 30102 / 100000 then infinity
    else if tens + (log2 + 1) * 30103 / 100000 + 1 < -330 then zero
    else ofFloat (Float.ofScientific digits (tens < 0) tens.natAbs)

end Number

namespace Numeral

def value (numeral : Numeral) : Number :=
  let magnitude := Number.ofDecimal numeral.significand numeral.tens
  if numeral.negative then magnitude.negate else magnitude

end Numeral

namespace Number

/-- Reads an unsigned number: a word for infinity or NaN, or digits in which either side of the
point may be empty. -/
def readUnsigned? (text : List Char) : Option Number :=
  let lower := text.map Char.toLower
  if lower = ['i', 'n', 'f'] || lower = "infinity".toList then some infinity
  else if lower = ['n', 'a', 'n'] then some nan
  else
    let whole := text.takeWhile Char.isDigit
    let afterWhole := text.dropWhile Char.isDigit
    let (fraction, afterFraction) := match afterWhole with
      | '.' :: rest => (rest.takeWhile Char.isDigit, rest.dropWhile Char.isDigit)
      | _ => ([], afterWhole)
    if whole.isEmpty && fraction.isEmpty then none
    else
      let (exponent, rest) := ExponentPart.scan afterFraction
      if rest.isEmpty then
        some (ofDecimal (digitsValue (whole ++ fraction))
          ((exponent.map ExponentPart.value).getD 0 - fraction.length))
      else none

def read? (text : String) : Option Number :=
  match text.toList with
  | '-' :: rest => (readUnsigned? rest).map negate
  | '+' :: rest => readUnsigned? rest
  | characters => readUnsigned? characters

end Number

end Verdict
