import Verdict.Number.Layout
import Verdict.Operator

/-!
# Tokens

The words of a rule text. A token knows the bytes that it covers.
-/

set_option autoImplicit false

namespace Verdict

inductive Mark where
  | equal
  | notEqual
  | greaterEqual
  | lessEqual
  | all
  | any
  | greater
  | less
  | both
  | either
  | negation
  | openParen
  | closeParen
  | openBracket
  | closeBracket
  | comma
deriving DecidableEq

namespace Mark

def text : Mark → String
  | .equal => "=="
  | .notEqual => "!="
  | .greaterEqual => ">="
  | .lessEqual => "<="
  | .all => "&&"
  | .any => "||"
  | .greater => ">"
  | .less => "<"
  | .both => "&"
  | .either => "|"
  | .negation => "^"
  | .openParen => "("
  | .closeParen => ")"
  | .openBracket => "["
  | .closeBracket => "]"
  | .comma => ","

def operator? : Mark → Option Operator
  | .equal => some .equal
  | .notEqual => some .notEqual
  | .greaterEqual => some .greaterEqual
  | .lessEqual => some .lessEqual
  | .greater => some .greater
  | .less => some .less
  | .both => some .both
  | .either => some .either
  | _ => none

end Mark

inductive Token where
  | number (value : Number)
  | string (text : String)
  | truth (value : Bool)
  | identifier (name : String)
  | mark (sign : Mark)
deriving DecidableEq

namespace Token

def same : Token → Token → Bool
  | .number left, .number right => left.sameValue right
  | left, right => left == right

/-- The text of a token in messages; a string stands between quotes as it is. -/
def display : Token → String
  | .number value => value.display
  | .string text => s!"'{text}'"
  | .truth value => if value then "true" else "false"
  | .identifier name => name
  | .mark sign => sign.text

end Token

/-- A token and the bytes from `start` up to but without `stop` that it covers. -/
structure Spanned where
  token : Token
  start : Nat
  stop : Nat
deriving DecidableEq

end Verdict
