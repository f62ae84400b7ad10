import Verdict.Json.Basic
import Verdict.Number.Numeral

/-!
# Numerals in JSON

A numeral without fraction and exponent is a whole number if 64 bits hold it. Every other numeral is
a decimal: the leading digits that fit 64 bits are taken as an integer, which is then scaled by a
power of ten in one floating operation. The result can differ from the nearest number in its last
bit.
-/

set_option autoImplicit false

namespace Verdict

namespace JsonNumber

def greatestWord : Nat := 0xFFFFFFFFFFFFFFFF

/-- Appends digits to a significand as long as the result fits a word, and answers the significand
and the digits left over. -/
def accumulate : Nat → List Char → Nat × List Char
  | significand, [] => (significand, [])
  | significand, digit :: digits =>
      let next := 10 * significand + (digit.toNat - '0'.toNat)
      if greatestWord < next then (significand, digit :: digits) else accumulate next digits

def powerOfTen (exponent : Nat) : Number := Number.ofDecimal 1 exponent

/-- Divides by `10^308` until the exponent is at least `-308`; `fuel` bounds the divisions, of which
two bring every word down to zero. -/
def rescale : Nat → Number → Int → Number × Int
  | 0, value, exponent => (value, exponent)
  | fuel + 1, value, exponent =>
      if exponent < -308 && !value.isZero then
        rescale fuel (value / powerOfTen 308) (exponent + 308)
      else (value, exponent)

/-- The integer times a power of ten, in one floating operation unless the power is below
`10^-308`; infinite if it is out of range. -/
def scaled (significand : Nat) (exponent : Int) : Number :=
  let (value, exponent) := rescale 3 (Number.ofNat significand) exponent
  if value.isZero then value
  else if 308 < exponent then Number.infinity
  else if 0 ≤ exponent then value * powerOfTen exponent.toNat
  else value / powerOfTen (-exponent).toNat

def magnitude (numeral : Numeral) : Number :=
  let (leading, excess) := accumulate 0 numeral.whole
  let fraction := numeral.fraction.getD []
  let (significand, dropped) := accumulate leading fraction
  let taken := fraction.length - dropped.length
  scaled significand
    ((excess.length : Int) - taken + (numeral.exponent.map ExponentPart.value).getD 0)

def ofNumeral (numeral : Numeral) : JsonNumber :=
  let isWhole := numeral.fraction.isNone && numeral.exponent.isNone
  let value := digitsValue numeral.whole
  if isWhole && !numeral.negative && value ≤ greatestWord then .whole value
  else if isWhole && numeral.negative && 0 < value && value ≤ 0x8000000000000000 then
    .whole (-(value : Int))
  else
    let magnitude := magnitude numeral
    .decimal (if numeral.negative then magnitude.negate else magnitude)

end JsonNumber

end Verdict
