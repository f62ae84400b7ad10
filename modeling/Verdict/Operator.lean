/-!
# Operators and node kinds

The words in which rules are built: connectives join rules, operators compare or join two operands,
and every operand is of a kind. Errors name them too.
-/

set_option autoImplicit false

namespace Verdict

/-- A connective joins rules and decides from left to right, as soon as it can. -/
inductive Connective where
  | all
  | any
deriving DecidableEq

namespace Connective

def symbol : Connective → String
  | .all => "&&"
  | .any => "||"

def nodeName : Connective → String
  | .all => "AndCombiner"
  | .any => "OrCombiner"

/-- The answer of a member that decides the whole. -/
def decider : Connective → Bool
  | .all => false
  | .any => true

end Connective

/-- An operator takes two operands and always resolves both. -/
inductive Operator where
  | both
  | either
  | equal
  | notEqual
  | greater
  | greaterEqual
  | less
  | lessEqual
deriving DecidableEq

namespace Operator

def symbol : Operator → String
  | .both => "&"
  | .either => "|"
  | .equal => "=="
  | .notEqual => "!="
  | .greater => ">"
  | .greaterEqual => ">="
  | .less => "<"
  | .lessEqual => "<="

def every : List Operator :=
  [.both, .either, .equal, .notEqual, .greater, .greaterEqual, .less, .lessEqual]

def ofSymbol? (symbol : String) : Option Operator :=
  every.find? fun operator => operator.symbol == symbol

end Operator

def negationSymbol : String := "^"

inductive NodeKind where
  | numeric
  | string
  | boolean
  | array
  | object
  | path
  | pointer
  | call
deriving DecidableEq

namespace NodeKind

def name : NodeKind → String
  | .numeric => "NumericValue"
  | .string => "StringValue"
  | .boolean => "BooleanValue"
  | .array => "ArrayValue"
  | .object => "ObjectValue"
  | .path => "JsonPathValue"
  | .pointer => "JsonPointerValue"
  | .call => "FunctionValue"

end NodeKind

end Verdict
