import Verdict.Rule.Basic
import Verdict.Value.Printer

/-!
# Writing rules

Members of a connective are separated by its symbol. A member that is itself joined by a connective
stands in parentheses, so the written form shows the grouping of the rule.
-/

set_option autoImplicit false

namespace Verdict

namespace Rule

/-- The text of a member of a connective: a member with a connective of its own is put in
parentheses. -/
def enclosed (member : Rule) (text : List Char) : List Char :=
  if member.isCombined then '(' :: (text ++ [')']) else text

mutual

def characters : Rule → List Char
  | .combined connective first others =>
      enclosed first (characters first) ++ otherCharacters connective others
  | .negation operand => '^' :: operand.characters
  | .binary operator left right =>
      left.characters ++ ' ' :: (operator.symbol.toList ++ ' ' :: right.characters)

/-- The members behind the first one, each with the symbol in front of it. -/
def otherCharacters (connective : Connective) : List Rule → List Char
  | [] => []
  | member :: members =>
      ' ' :: (connective.symbol.toList ++ ' ' :: enclosed member (characters member)) ++
        otherCharacters connective members

end

def display (rule : Rule) : String := String.ofList rule.characters

end Rule

end Verdict
