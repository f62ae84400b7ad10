import Verdict.Rule.Basic
import Verdict.Value.Resolution

/-!
# Evaluation

A connective asks its members from left to right and stops at the first that decides. An operator
resolves its left operand and then its right one, whatever the left one came to. An operand that
cannot be resolved counts as false, as zero, or as null.
-/

set_option autoImplicit false

namespace Verdict

namespace Operator

def script (operator : Operator) (left right : Value) : Script Bool :=
  let booleans (answer : Bool → Bool → Bool) : Script Bool :=
    (left.resolveBoolean false).bind fun first =>
      (right.resolveBoolean false).bind fun second => .done (answer first second)
  let data (answer : Datum → Datum → Bool) : Script Bool :=
    (left.resolveDatum .null).bind fun first =>
      (right.resolveDatum .null).bind fun second => .done (answer first second)
  let numbers (answer : Number → Number → Bool) : Script Bool :=
    (left.resolveNumber .zero).bind fun first =>
      (right.resolveNumber .zero).bind fun second => .done (answer first second)
  match operator with
  | .both => booleans fun first second => first && second
  | .either => booleans fun first second => first || second
  | .equal => data fun first second => first.same second
  | .notEqual => data fun first second => !first.same second
  | .greater => numbers fun first second => second.less first
  | .greaterEqual => numbers fun first second => second.atMost first
  | .less => numbers fun first second => first.less second
  | .lessEqual => numbers fun first second => first.atMost second

end Operator

namespace Rule

mutual

def script : Rule → Script Bool
  | .combined connective first others => (script first).bind fun answer =>
      if answer = connective.decider then .done answer else othersScript connective others
  | .negation operand => (operand.resolveBoolean false).bind fun truth => .done (!truth)
  | .binary operator left right => operator.script left right

/-- Evaluates the members of a connective that are left when none so far has decided. -/
def othersScript (connective : Connective) : List Rule → Script Bool
  | [] => .done (!connective.decider)
  | member :: members => (script member).bind fun answer =>
      if answer = connective.decider then .done answer else othersScript connective members

end

end Rule

end Verdict
