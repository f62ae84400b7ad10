import Verdict.Registry.Basic
import Verdict.Rule.Basic
import Verdict.Token.Cursor
import Verdict.Token.Lexer

/-!
# Reading rules

The grammar of rules, in which `"…"` is a mark:

    rule     := any end
    any      := all ("||" all)*
    all      := term ("&&" term)*
    term     := "(" any ")" | "^" value | value operator value
    operator := "==" | "!=" | ">" | ">=" | "<" | "<=" | "&" | "|"
    value    := number | string | "true" | "false" | "[" list "]" | name "(" list ")"
    list     := (value ("," value)*)?

A group with one member is that member. A string that begins with a dollar sign is a path and one
that begins with a slash a pointer. Every call is bound as soon as it is read, and the operands of
an operator take its role: numeric for the four comparisons, boolean for the strict connectives and
the negation, opaque for the equalities.
-/

set_option autoImplicit false

namespace Verdict

def literalOfString (text : String) : Except Error Value :=
  let compiled (dialect : Dialect) : Except Error Value :=
    match dialect.compile text with
    | .ok address => .ok (.located none address)
    | .error defect => .error (.invalidAddress text defect)
  match text.toList.head? with
  | some '$' => compiled .path
  | some '/' => compiled .pointer
  | _ => .ok (.string text)

def expectMark (mark : Mark) (cursor : Cursor) : Except Error Cursor :=
  match cursor.expect (.mark mark) with
  | .ok _ => .ok cursor.advance
  | .error error => .error (.parse error)

mutual

/-- Reads a value; `fuel` bounds the nesting and the number of items. -/
def parseValue (registry : Registry) : Nat → Cursor → Except Error (Value × Cursor)
  | 0, cursor => .error (.parse (cursor.endOfInput "a value"))
  | fuel + 1, cursor =>
      match cursor.peek? with
      | none => .error (.parse (cursor.endOfInput "a value"))
      | some next =>
          match next.token with
          | .number value => .ok (.number value, cursor.advance)
          | .truth value => .ok (.boolean value, cursor.advance)
          | .string text => do
              let value ← literalOfString text
              return (value, cursor.advance)
          | .mark .openBracket => do
              let (items, cursor) ← parseList registry fuel .closeBracket cursor.advance
              return (.array items, cursor)
          | .identifier name => do
              let cursor ← expectMark .openParen cursor.advance
              let (arguments, cursor) ← parseList registry fuel .closeParen cursor
              let call ← registry.bind name arguments
              return (.called none call, cursor)
          | token => .error (.parse ⟨.unexpectedToken token.display, next.start⟩)

def parseList (registry : Registry) : Nat → Mark → Cursor → Except Error (List Value × Cursor)
  | 0, _, cursor => .error (.parse (cursor.endOfInput "a value"))
  | fuel + 1, close, cursor =>
      match cursor.consume? (.mark close) with
      | some cursor => .ok ([], cursor)
      | none => parseItems registry fuel close cursor

def parseItems (registry : Registry) : Nat → Mark → Cursor → Except Error (List Value × Cursor)
  | 0, _, cursor => .error (.parse (cursor.endOfInput "a value"))
  | fuel + 1, close, cursor => do
      let (item, cursor) ← parseValue registry fuel cursor
      match cursor.consume? (.mark .comma) with
      | some cursor =>
          let (items, cursor) ← parseItems registry fuel close cursor
          return (item :: items, cursor)
      | none =>
          let cursor ← expectMark close cursor
          return ([item], cursor)

end

def parseOperator (cursor : Cursor) : Except Error (Operator × Cursor) :=
  match cursor.peek? with
  | none => .error (.parse (cursor.endOfInput "an operator"))
  | some next =>
      let mismatch : Except Error (Operator × Cursor) :=
        .error (.parse ⟨.expectedToken "an operator" next.token.display, next.start⟩)
      match next.token with
      | .mark sign =>
          match sign.operator? with
          | some operator => .ok (operator, cursor.advance)
          | none => mismatch
      | _ => mismatch

def retype (retyped : Option Value) (symbol : String) (operand : Value) (position : Nat) :
    Except Error Value :=
  match retyped with
  | some value => .ok value
  | none => .error (.parse ⟨.invalidOperand symbol operand.kind, position⟩)

namespace Operator

def retype? (operator : Operator) (operand : Value) : Option Value :=
  match operator with
  | .both => operand.toBoolean?
  | .either => operand.toBoolean?
  | .equal => some operand.toObject
  | .notEqual => some operand.toObject
  | .greater => operand.toNumeric?
  | .greaterEqual => operand.toNumeric?
  | .less => operand.toNumeric?
  | .lessEqual => operand.toNumeric?

end Operator

def parseBinary (registry : Registry) (fuel : Nat) (cursor : Cursor) :
    Except Error (Rule × Cursor) := do
  let leftPosition := cursor.offset
  let (left, cursor) ← parseValue registry fuel cursor
  let (operator, cursor) ← parseOperator cursor
  let rightPosition := cursor.offset
  let (right, cursor) ← parseValue registry fuel cursor
  let retypedLeft ← retype (operator.retype? left) operator.symbol left leftPosition
  let retypedRight ← retype (operator.retype? right) operator.symbol right rightPosition
  return (.binary operator retypedLeft retypedRight, cursor)

def parseNegation (registry : Registry) (fuel : Nat) (cursor : Cursor) :
    Except Error (Rule × Cursor) := do
  let position := cursor.offset
  let (operand, cursor) ← parseValue registry fuel cursor
  let retyped ← retype operand.toBoolean? negationSymbol operand position
  return (.negation retyped, cursor)

namespace Connective

def mark : Connective → Mark
  | .all => .all
  | .any => .any

end Connective

/-- A group with one member is that member. -/
def joinMembers (connective : Connective) (first : Rule) : List Rule → Rule
  | [] => first
  | others => .combined connective first others

mutual

/-- Reads the members of a connective with its marks between them; `fuel` bounds the nesting and the
number of members. -/
def parseGroup (registry : Registry) : Nat → Connective → Cursor → Except Error (Rule × Cursor)
  | 0, _, cursor => .error (.parse (cursor.endOfInput "a value"))
  | fuel + 1, connective, cursor => do
      let (first, cursor) ← parseMember registry fuel connective cursor
      let (others, cursor) ← parseMembers registry fuel connective cursor
      return (joinMembers connective first others, cursor)

/-- Reads one member: of a disjunction a conjunction, of a conjunction a term. -/
def parseMember (registry : Registry) : Nat → Connective → Cursor → Except Error (Rule × Cursor)
  | 0, _, cursor => .error (.parse (cursor.endOfInput "a value"))
  | fuel + 1, .any, cursor => parseGroup registry fuel .all cursor
  | fuel + 1, .all, cursor => parseTerm registry fuel cursor

def parseMembers (registry : Registry) :
    Nat → Connective → Cursor → Except Error (List Rule × Cursor)
  | 0, _, cursor => .error (.parse (cursor.endOfInput "a value"))
  | fuel + 1, connective, cursor =>
      match cursor.consume? (.mark connective.mark) with
      | none => .ok ([], cursor)
      | some cursor => do
          let (member, cursor) ← parseMember registry fuel connective cursor
          let (members, cursor) ← parseMembers registry fuel connective cursor
          return (member :: members, cursor)

def parseTerm (registry : Registry) : Nat → Cursor → Except Error (Rule × Cursor)
  | 0, cursor => .error (.parse (cursor.endOfInput "a value"))
  | fuel + 1, cursor =>
      match cursor.consume? (.mark .openParen) with
      | some cursor => do
          let (inner, cursor) ← parseGroup registry fuel .any cursor
          let cursor ← expectMark .closeParen cursor
          return (inner, cursor)
      | none =>
          match cursor.consume? (.mark .negation) with
          | some cursor => parseNegation registry (3 * cursor.tokens.length + 3) cursor
          | none => parseBinary registry (3 * cursor.tokens.length + 3) cursor

end

def parseTokens (registry : Registry) (cursor : Cursor) : Except Error Rule := do
  let (rule, cursor) ← parseGroup registry (5 * cursor.tokens.length + 5) .any cursor
  match cursor.peek? with
  | none => return rule
  | some next => .error (.parse ⟨.unexpectedToken next.token.display, next.start⟩)

/-- Reads a rule text, binding its calls in a registry. -/
def parseRule (registry : Registry) (text : String) : Except Error Rule :=
  match tokenize text with
  | .error error => .error (.parse error)
  | .ok tokens => parseTokens registry ⟨tokens, text.utf8ByteSize⟩

end Verdict
