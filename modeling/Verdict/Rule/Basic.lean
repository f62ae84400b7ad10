import Verdict.Value.Basic

/-!
# Rules

A rule comes to a truth value. Connectives join rules, of which there is always at least one;
operators and negation take values.
-/

set_option autoImplicit false

namespace Verdict

inductive Rule where
  | combined (connective : Connective) (first : Rule) (others : List Rule)
  | negation (operand : Value)
  | binary (operator : Operator) (left : Value) (right : Value)

namespace Rule

/-- Joins rules; an empty list is refused. -/
def combine (connective : Connective) : List Rule → Except Error Rule
  | [] => .error (.invalidArity connective.nodeName .atLeastOne 0)
  | first :: others => .ok (.combined connective first others)

def ofOperands (operator : Operator) : List Value → Except Error Rule
  | [left, right] => .ok (.binary operator left right)
  | operands => .error (.invalidArity operator.symbol .exactlyTwo operands.length)

def asBinary? : Rule → Option (Operator × Value × Value)
  | .binary operator left right => some (operator, left, right)
  | _ => none

def isCombined : Rule → Bool
  | .combined _ _ _ => true
  | _ => false

mutual

def same : Rule → Rule → Bool
  | .combined leftConnective left lefts, .combined rightConnective right rights =>
      leftConnective == rightConnective && same left right && sameAll lefts rights
  | .negation left, .negation right => left.same right
  | .binary leftOperator left first, .binary rightOperator right second =>
      leftOperator == rightOperator && left.same right && first.same second
  | _, _ => false

def sameAll : List Rule → List Rule → Bool
  | [], [] => true
  | left :: lefts, right :: rights => same left right && sameAll lefts rights
  | _, _ => false

end

instance : BEq Rule := ⟨same⟩

end Rule

end Verdict
