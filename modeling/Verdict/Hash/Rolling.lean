import Verdict.Datum

/-!
# Rolling hashes

A hash of 32 bits that folds a sequence by `31 · hash + word`: a text over its 16-bit units from
zero, a list over the hashes of its items from one.
-/

set_option autoImplicit false

namespace Verdict

namespace Text

/-- The 16-bit units of a character: a pair for a character beyond the basic plane. -/
def units16 (character : Char) : List Nat :=
  let code := character.toNat
  if code < 0x10000 then [code]
  else [0xD800 + (code - 0x10000) / 0x400, 0xDC00 + (code - 0x10000) % 0x400]

end Text

namespace Hash

def roll (start : UInt32) (words : List UInt32) : UInt32 :=
  words.foldl (fun hash word => 31 * hash + word) start

def rollText (text : List Char) : UInt32 :=
  roll 0 ((text.flatMap Text.units16).map fun unit => UInt32.ofNat unit)

/-- The two halves of the bits of a number, folded together; every NaN has the same bits here. -/
def foldBits (value : Number) : UInt32 :=
  let bits := if value.isNaN then Number.nan.bits else value.bits
  (bits ^^^ (bits >>> 32)).toUInt32

mutual

/-- The rolling hash of a datum. An object is hashed by its text. -/
def rollDatum : Datum → UInt32
  | .null => 0
  | .boolean true => 1231
  | .boolean false => 1237
  | .number value => foldBits value
  | .string text => rollText text.toList
  | .list items => roll 1 (rollItems items)
  | .json value => rollText value.characters

def rollItems : List Datum → List UInt32
  | [] => []
  | item :: items => rollDatum item :: rollItems items

end

def signed32 (hash : UInt32) : Int := hash.toInt32.toInt

end Hash

end Verdict
