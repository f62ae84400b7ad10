import Verdict.Number.Basic

/-!
# The fewest digits that read back

A finite positive number stands for the interval of reals that round to it. `Number.shortest` tries
the decimal grids from the coarsest on and takes, on the first grid that meets the interval at one
of the value's two neighbours, the nearer neighbour. All comparisons are between natural numbers.
-/

set_option autoImplicit false

namespace Verdict

/-- A positive decimal, `digits · 10^exponent`. -/
structure Decimal where
  digits : Nat
  exponent : Int
deriving DecidableEq

inductive Tie where
  | up
  | toEven
deriving DecidableEq

/-- A non-negative value `significand · 2^exponent`. -/
structure Dyadic where
  significand : Nat
  exponent : Int
  /-- Whether the number below is half as far away as the number above. -/
  narrowBelow : Bool

namespace Number

def dyadic (number : Number) : Dyadic :=
  let fraction := (number.bits &&& 0x000FFFFFFFFFFFFF).toNat
  let exponent := number.biasedExponent
  if exponent = 0 then ⟨fraction, -1074, false⟩
  else ⟨0x10000000000000 + fraction, (exponent : Int) - 1075, fraction = 0 && exponent > 1⟩

end Number

namespace Dyadic

def compareDecimal (digits : Nat) (tens : Int) (count : Nat) (twos : Int) : Ordering :=
  compare (digits * Nat.pow 10 tens.toNat * Nat.pow 2 (-twos).toNat)
    (count * Nat.pow 2 twos.toNat * Nat.pow 10 (-tens).toNat)

/-- Whether a decimal lies among the reals that round to the value, halves going to an even
significand. -/
def readsBack (value : Dyadic) (decimal : Decimal) : Bool :=
  let below := if value.narrowBelow then 4 * value.significand - 1 else 4 * value.significand - 2
  let above := 4 * value.significand + 2
  let closed := value.significand % 2 = 0
  let fromBelow := compareDecimal decimal.digits decimal.exponent below (value.exponent - 2)
  let fromAbove := compareDecimal decimal.digits decimal.exponent above (value.exponent - 2)
  (fromBelow = .gt || (closed && fromBelow = .eq)) &&
    (fromAbove = .lt || (closed && fromAbove = .eq))

def inUnits (value : Dyadic) (tens : Int) : Nat × Nat :=
  (value.significand * Nat.pow 2 value.exponent.toNat * Nat.pow 10 (-tens).toNat,
    Nat.pow 2 (-value.exponent).toNat * Nat.pow 10 tens.toNat)

/-- The least exponent whose power of ten is above the value, found from the binary logarithm. -/
def scale (value : Dyadic) : Int :=
  let estimate := ((value.significand.log2 : Int) + value.exponent) * 30103 / 100000 - 1
  let fits (tens : Int) : Bool := compareDecimal 1 tens value.significand value.exponent = .gt
  if fits estimate then estimate
  else if fits (estimate + 1) then estimate + 1
  else if fits (estimate + 2) then estimate + 2
  else estimate + 3

/-- The nearer of the value's two neighbours on the grid `10^tens`, among those that read back. -/
def onGrid? (value : Dyadic) (tie : Tie) (tens : Int) : Option Decimal :=
  let (numerator, denominator) := value.inUnits tens
  let low := numerator / denominator
  let lowReads := value.readsBack ⟨low, tens⟩
  let highReads := value.readsBack ⟨low + 1, tens⟩
  if lowReads && highReads then
    let upper : Bool := match compare (2 * (numerator % denominator)) denominator with
      | .lt => false
      | .gt => true
      | .eq => tie = .up || low % 2 = 1
    some ⟨low + upper.toNat, tens⟩
  else if lowReads then some ⟨low, tens⟩
  else if highReads then some ⟨low + 1, tens⟩
  else none

def exact (value : Dyadic) : Decimal :=
  match value.exponent with
  | .ofNat twos => ⟨value.significand * Nat.pow 2 twos, 0⟩
  | .negSucc twos => ⟨value.significand * Nat.pow 5 (twos + 1), -(twos + 1 : Nat)⟩

end Dyadic

namespace Decimal

/-- Moves the zeros that end the digits into the exponent; `fuel` bounds their number. -/
def strip : Nat → Decimal → Decimal
  | 0, decimal => decimal
  | fuel + 1, decimal =>
      if decimal.digits % 10 = 0 && decimal.digits ≠ 0 then
        strip fuel ⟨decimal.digits / 10, decimal.exponent + 1⟩
      else decimal

end Decimal

namespace Number

def shortest (tie : Tie) (number : Number) : Decimal :=
  let value := number.dyadic
  if value.significand = 0 then ⟨0, 0⟩
  else
    let scale := value.scale
    let found := (List.range 17).findSome? fun (count : Nat) =>
      value.onGrid? tie (scale - 1 - count)
    let decimal := found.getD value.exact
    decimal.strip decimal.digits.log2

end Number

end Verdict
