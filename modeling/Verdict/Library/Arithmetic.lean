import Verdict.Library.Shape

/-!
# Arithmetic functions

Sums and products take any number of operands and run from left to right, a sum from zero and a
product from one. An operand that cannot be resolved counts as zero.
-/

set_option autoImplicit false

namespace Verdict

namespace Library

def foldNumbers (operation : Number → Number → Number) : Number → List Operand → Script Number
  | total, [] => .done total
  | total, operand :: operands => (operand.numberOr .zero).bind fun number =>
      foldNumbers operation (operation total number) operands

def folding (name : String) (start : Number) (operation : Number → Number → Number) : Function :=
  ⟨name, [.variadic fun operands =>
    (foldNumbers operation start operands).bind fun total => .done (.number total)]⟩

def onNumber (name : String) (operation : Number → Number) : Function :=
  ⟨name, [.unary name fun operand =>
    (operand.numberOr .zero).bind fun number => .done (.number (operation number))]⟩

def sum : Function := folding "math.add" .zero (· + ·)

def product : Function := folding "math.prod" .one (· * ·)

def difference : Function :=
  ⟨"math.sub", [.binary "math.sub" fun left right =>
    (left.numberOr .zero).bind fun first => (right.numberOr .zero).bind fun second =>
      .done (.number (first - second))]⟩

/-- Both operands are resolved before a denominator of zero, of either sign, is found illegal; zero
takes the place of the quotient. -/
def quotient : Function :=
  ⟨"math.div", [.binary "math.div" fun numerator denominator =>
    (numerator.numberOr .zero).bind fun first => (denominator.numberOr .zero).bind fun second =>
      if second.isZero then .report (.illegal .zeroDenominator) (.done (.number .zero))
      else .done (.number (first / second))]⟩

def negation : Function := onNumber "math.negate" Number.negate

def absoluteValue : Function := onNumber "math.abs" Number.abs

def floor : Function := onNumber "math.floor" Number.floor

def ceiling : Function := onNumber "math.ceil" Number.ceil

def arithmetic : List Function :=
  [sum, product, difference, quotient, negation, absoluteValue, floor, ceiling]

end Library

end Verdict
