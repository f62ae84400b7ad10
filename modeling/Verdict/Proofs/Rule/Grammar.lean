import Verdict.Registry.Basic
import Verdict.Rule.Basic
import Verdict.Token.Basic

/-!
# The grammar of rules

Which rows of tokens spell which values and rules, stated without a parser:

    any      := all ("||" all)*
    all      := term ("&&" term)*
    term     := "(" any ")" | "^" value | value operator value
    value    := number | string | "true" | "false" | "[" list "]" | name "(" list ")"
    list     := (value ("," value)*)?

The side conditions stand in the constructors: a string is compiled by its first character, a call
is bound by the number of its arguments, and an operand takes the role that its operator wants.
-/

set_option autoImplicit false

namespace Verdict

/-- The mark that spells an operator. -/
def Operator.mark : Operator → Mark
  | .both => .both
  | .either => .either
  | .equal => .equal
  | .notEqual => .notEqual
  | .greater => .greater
  | .greaterEqual => .greaterEqual
  | .less => .less
  | .lessEqual => .lessEqual

/-- The role of the operands of an operator. -/
def Operator.role : Operator → Role
  | .both => .boolean
  | .either => .boolean
  | .equal => .object
  | .notEqual => .object
  | .greater => .numeric
  | .greaterEqual => .numeric
  | .less => .numeric
  | .lessEqual => .numeric

namespace Grammar

/-- Phrases in a row with a mark between each two of them. -/
def row (mark : Mark) : List (List Token) → List Token
  | [] => []
  | first :: others => first ++ others.flatMap fun phrase => .mark mark :: phrase

/-- The value of a string: a dollar sign begins a path, a slash a pointer, and anything else is
plain text. -/
inductive Quoted : String → Value → Prop where
  | path {text : String} {path : Path} :
      text.toList.head? = some '$' → Path.compile text = .ok path →
      Quoted text (.located none (.path path))
  | pointer {text : String} {pointer : Pointer} :
      text.toList.head? = some '/' → Pointer.compile text = .ok pointer →
      Quoted text (.located none (.pointer pointer))
  | plain {text : String} :
      text.toList.head? ≠ some '$' → text.toList.head? ≠ some '/' →
      Quoted text (.string text)

/-- The values that tokens spell. Items are given with the tokens of each. -/
inductive Spells (registry : Registry) : List Token → Value → Prop where
  | number {value : Number} : Spells registry [.number value] (.number value)
  | truth {value : Bool} : Spells registry [.truth value] (.boolean value)
  | string {text : String} {value : Value} :
      Quoted text value → Spells registry [.string text] value
  | array {items : List (List Token × Value)} :
      (∀ item ∈ items, Spells registry item.1 item.2) →
      Spells registry
        (.mark .openBracket :: (row .comma (items.map Prod.fst) ++ [.mark .closeBracket]))
        (.array (items.map Prod.snd))
  | call {name : String} {arguments : List (List Token × Value)} {overload : Overload} :
      (∀ argument ∈ arguments, Spells registry argument.1 argument.2) →
      registry.resolve name arguments.length = .ok overload →
      Spells registry
        (.identifier name :: .mark .openParen ::
          (row .comma (arguments.map Prod.fst) ++ [.mark .closeParen]))
        (.called none (.mk name (arguments.map Prod.snd) overload.signature overload.attached
          overload.implementation))

/-- The literals among the values that tokens spell. -/
inductive Literal : Value → Prop where
  | number {value : Number} : Literal (.number value)
  | string {text : String} : Literal (.string text)
  | boolean {truth : Bool} : Literal (.boolean truth)
  | array {items : List Value} : Literal (.array items)

/-- How a role changes the value that was read for an operand: a reference takes the role, and a
literal is kept if it is of the role's kind or the operand is opaque. -/
inductive Retyped (role : Role) : Value → Value → Prop where
  | located {address : Address} : Retyped role (.located none address) (.located (some role) address)
  | called {call : Call} : Retyped role (.called none call) (.called (some role) call)
  | literal {value : Value} :
      Literal value → role = .object ∨ value.kind = role.nodeKind → Retyped role value value

/-- The levels of precedence: terms bind tightest, and a disjunction has conjunctions as members. -/
inductive Level where
  | term
  | group (connective : Connective)

/-- The level of the members of a connective. -/
def memberLevel : Connective → Level
  | .all => .term
  | .any => .group .all

/-- The mark between the members of a connective. -/
def joint : Connective → Mark
  | .all => .all
  | .any => .any

/-- The rules that tokens spell at a level of precedence. A single member stands for itself, several
members become one rule that holds them in order. -/
inductive Derives (registry : Registry) : Level → List Token → Rule → Prop where
  | enclosed {tokens : List Token} {rule : Rule} :
      Derives registry (.group .any) tokens rule →
      Derives registry .term (.mark .openParen :: (tokens ++ [.mark .closeParen])) rule
  | negation {tokens : List Token} {operand retyped : Value} :
      Spells registry tokens operand → Retyped .boolean operand retyped →
      Derives registry .term (.mark .negation :: tokens) (.negation retyped)
  | binary {lefts rights : List Token} {operator : Operator}
      {left right retypedLeft retypedRight : Value} :
      Spells registry lefts left → Spells registry rights right →
      Retyped operator.role left retypedLeft → Retyped operator.role right retypedRight →
      Derives registry .term (lefts ++ .mark operator.mark :: rights)
        (.binary operator retypedLeft retypedRight)
  | single {connective : Connective} {tokens : List Token} {rule : Rule} :
      Derives registry (memberLevel connective) tokens rule →
      Derives registry (.group connective) tokens rule
  | joined {connective : Connective} {first : List Token × Rule}
      {others : List (List Token × Rule)} :
      others ≠ [] →
      (∀ member ∈ first :: others, Derives registry (memberLevel connective) member.1 member.2) →
      Derives registry (.group connective)
        (row (joint connective) ((first :: others).map Prod.fst))
        (.combined connective first.2 (others.map Prod.snd))

end Grammar

end Verdict
