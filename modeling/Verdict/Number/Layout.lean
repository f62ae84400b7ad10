import Verdict.Number.Shortest

/-!
# How a number is laid out

A layout says which decimals are written positionally, whether a whole number keeps `.0`, and which
of two equally near decimals is taken. `Number.display` is the form used in rules and in messages;
the form inside a JSON text is `Number.inJson`.
-/

set_option autoImplicit false

namespace Verdict

structure Layout where
  /-- The exponents of the leading digit that are written positionally, from the first bound up to
  but without the second; all of them when absent. -/
  positional : Option (Int × Int)
  /-- Whether a positional whole number ends in `.0`. -/
  pointZero : Bool
  tie : Tie

namespace Layout

/-- Digits with the point after the first `whole` of them, filled up with zeros on either side. -/
def positionalText (pointZero : Bool) (digits : List Char) (whole : Int) : List Char :=
  match whole with
  | .ofNat count =>
      if count = 0 then '0' :: '.' :: digits
      else if digits.length ≤ count then
        digits ++ List.replicate (count - digits.length) '0' ++
          (if pointZero then ['.', '0'] else [])
      else digits.take count ++ '.' :: digits.drop count
  | .negSucc missing => '0' :: '.' :: (List.replicate (missing + 1) '0' ++ digits)

def scientificText (digits : List Char) (exponent : Int) : List Char :=
  let tail := match digits with
    | first :: second :: rest => first :: '.' :: second :: rest
    | short => short
  let sign := if exponent < 0 then '-' else '+'
  tail ++ 'e' :: sign :: (toString exponent.natAbs).toList

def decimalText (layout : Layout) (decimal : Decimal) : List Char :=
  if decimal.digits = 0 then if layout.pointZero then ['0', '.', '0'] else ['0']
  else
    let digits := (toString decimal.digits).toList
    let leading := decimal.exponent + (digits.length : Int) - 1
    let isPositional := match layout.positional with
      | none => true
      | some (low, high) => low ≤ leading && leading < high
    if isPositional then positionalText layout.pointZero digits (leading + 1)
    else scientificText digits leading

/-- The text of a number; infinities and NaN have texts of their own and NaN shows no sign. -/
def render (layout : Layout) (number : Number) : String :=
  if number.isNaN then "NaN"
  else
    let magnitude :=
      if number.isInfinite then "inf"
      else String.ofList (layout.decimalText (number.shortest layout.tie))
    if number.isNegative then "-" ++ magnitude else magnitude

end Layout

namespace Number

/-- In rules and messages a number is positional throughout and a whole number has no point. -/
def plainLayout : Layout where
  positional := none
  pointZero := false
  tie := .up

/-- In a JSON text a number is positional from `10^-5` up to `10^16` and a whole number keeps a
point, so that it is never read as an integer. -/
def jsonLayout : Layout where
  positional := some (-5, 16)
  pointZero := true
  tie := .toEven

def display (number : Number) : String := plainLayout.render number

def inJson (number : Number) : String := jsonLayout.render number

instance : ToString Number := ⟨display⟩

end Number

end Verdict
