/-!
# Numbers

A number is a binary64 value held by its 64 bits. Equality of numbers is equality of bits, so the
two zeros are told apart and so are two NaNs of different sign; the order and the arithmetic are
those of the values. An operation on a NaN answers that NaN, made quiet, and an operation without
a value of its own answers the NaN `Number.undefined`.
-/

set_option autoImplicit false

namespace Verdict

structure Number where
  /-- Sign, eleven bits of exponent and fifty-two bits of fraction. -/
  bits : UInt64
deriving DecidableEq, Inhabited

namespace Number

def ofFloat (value : Float) : Number := ⟨value.toBits⟩

def toFloat (number : Number) : Float := Float.ofBits number.bits

def zero : Number := ⟨0⟩

def one : Number := ⟨0x3FF0000000000000⟩

def infinity : Number := ⟨0x7FF0000000000000⟩

/-- The NaN that is written in a text. -/
def nan : Number := ⟨0x7FF8000000000000⟩

/-- The NaN answered by an operation without a value, such as the difference of two infinities. -/
def undefined : Number := ⟨0xFFF8000000000000⟩

def magnitudeBits (number : Number) : UInt64 := number.bits &&& 0x7FFFFFFFFFFFFFFF

/-- Whether the sign bit is set, also that of a zero or a NaN. -/
def isNegative (number : Number) : Bool := number.bits >>> 63 == 1

def isNaN (number : Number) : Bool := decide (0x7FF0000000000000 < number.magnitudeBits)

def isInfinite (number : Number) : Bool := number.magnitudeBits == 0x7FF0000000000000

def isFinite (number : Number) : Bool := decide (number.magnitudeBits < 0x7FF0000000000000)

def isZero (number : Number) : Bool := number.magnitudeBits == 0

def negate (number : Number) : Number := ⟨number.bits ^^^ 0x8000000000000000⟩

def abs (number : Number) : Number := ⟨number.magnitudeBits⟩

def quiet (number : Number) : Number := ⟨number.bits ||| 0x0008000000000000⟩

/-- Lifts an operation on values: the first NaN among the operands is the answer. -/
def combine (operation : Float → Float → Float) (left right : Number) : Number :=
  if left.isNaN then left.quiet
  else if right.isNaN then right.quiet
  else
    let value := operation left.toFloat right.toFloat
    if value.isNaN then undefined else ofFloat value

def add : Number → Number → Number := combine (· + ·)

def sub : Number → Number → Number := combine (· - ·)

def mul : Number → Number → Number := combine (· * ·)

def div : Number → Number → Number := combine (· / ·)

instance : Add Number := ⟨add⟩
instance : Sub Number := ⟨sub⟩
instance : Mul Number := ⟨mul⟩
instance : Div Number := ⟨div⟩
instance : Neg Number := ⟨negate⟩

/-- Equality of values: the zeros are equal and a NaN equals nothing. -/
def sameValue (left right : Number) : Bool := left.toFloat == right.toFloat

/-- Strict order of values; a NaN is never ordered. -/
def less (left right : Number) : Bool := decide (left.toFloat < right.toFloat)

def atMost (left right : Number) : Bool := decide (left.toFloat ≤ right.toFloat)

/-- One bit pattern for each value: zeros lose their sign and NaNs their sign and payload. -/
def canonicalBits (number : Number) : UInt64 :=
  if number.isZero then 0 else if number.isNaN then nan.bits else number.bits

def biasedExponent (number : Number) : Nat := (number.magnitudeBits >>> 52).toNat

/-- The whole part, with the sign kept: the bits below the point are cleared. -/
def truncate (number : Number) : Number :=
  if number.isNaN then number.quiet
  else
    let exponent := number.biasedExponent
    if exponent < 1023 then ⟨number.bits &&& 0x8000000000000000⟩
    else if exponent < 1075 then
      ⟨number.bits &&& ~~~((1 : UInt64) <<< (1075 - exponent).toUInt64 - 1)⟩
    else number

def floor (number : Number) : Number :=
  let whole := number.truncate
  if whole == number || number.isNaN then whole
  else if number.isNegative then whole - one
  else whole

def ceil (number : Number) : Number :=
  let whole := number.truncate
  if whole == number || number.isNaN then whole
  else if number.isNegative then whole
  else whole + one

/-- The number nearest to a natural number, ties to even. -/
def ofNat (value : Nat) : Number := ofFloat (Float.ofScientific value false 0)

def ofInt : Int → Number
  | .ofNat value => ofNat value
  | .negSucc value => (ofNat (value + 1)).negate

/-- The natural number below the point; zero for negatives and NaN, at most `2^64 - 1`. -/
def toNat (number : Number) : Nat := number.toFloat.toUInt64.toNat

end Number

end Verdict
