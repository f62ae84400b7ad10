import Verdict.Datum
import Verdict.Script
import Verdict.Signature

/-!
# Values

A value is an operand of a rule or an argument of a call: a literal, an address, or a call bound to
an overload. An address or a call may have a role, the kind that the rule wants from it; without one
it is a bare reference.

The implementation of an overload sees its arguments as `Operand`s, which it may resolve in any role
and order, and answers with a `Reply`: a literal, an address, one of its own arguments unresolved,
one of the values attached to the overload, or an array of such. Implementations take no part in
equality: a call is identified by its name, its arguments and the shape of its overload.
-/

set_option autoImplicit false

namespace Verdict

/-- A value as functions and operators see it. Each field resolves it in one role; the result is
missing if a failure was reported and recovered from. -/
structure Operand where
  string : Script (Option String)
  number : Script (Option Number)
  boolean : Script (Option Bool)
  datum : Script (Option Datum)
  /-- The items of an array, each with the script that resolves it. -/
  items : Script (Option (List (Script (Option Datum))))
  /-- The text of a path, which is not looked up; other values are resolved as strings. -/
  pathText : Script (Option String)
  /-- The text of a pointer, which is not looked up; other values are resolved as strings. -/
  pointerText : Script (Option String)

inductive Reply where
  | number (value : Number)
  | string (text : String)
  | boolean (truth : Bool)
  | datum (value : Datum)
  /-- The literal of an array that is put together while the function is applied. -/
  | array (items : List Reply)
  | address (place : Address)
  /-- An argument of the call, unresolved. -/
  | argument (index : Nat)
  | attached (index : Nat)

abbrev Implementation : Type := List Operand → Script Reply

inductive Role where
  | numeric
  | string
  | boolean
  | array
  | object
deriving DecidableEq

namespace Role

def nodeKind : Role → NodeKind
  | .numeric => .numeric
  | .string => .string
  | .boolean => .boolean
  | .array => .array
  | .object => .object

end Role

mutual

inductive Value where
  | number (value : Number)
  | string (text : String)
  | boolean (truth : Bool)
  | array (items : List Value)
  | object (value : Datum)
  | located (role : Option Role) (address : Address)
  /-- A place in the document whose address a call computes. -/
  | computed (role : Option Role) (dialect : Dialect) (call : Call)
  | called (role : Option Role) (call : Call)

inductive Call where
  | mk (name : String) (arguments : List Value) (signature : Signature) (attached : List Value)
      (implementation : Implementation)

end

namespace Call

def name : Call → String
  | .mk name _ _ _ _ => name

def arguments : Call → List Value
  | .mk _ arguments _ _ _ => arguments

def signature : Call → Signature
  | .mk _ _ signature _ _ => signature

end Call

namespace Value

/-- The kind of a value in messages: that of its literal or its role, otherwise that of the bare
reference. -/
def kind : Value → NodeKind
  | .number _ => .numeric
  | .string _ => .string
  | .boolean _ => .boolean
  | .array _ => .array
  | .object _ => .object
  | .located (some role) _ => role.nodeKind
  | .computed (some role) _ _ => role.nodeKind
  | .called (some role) _ => role.nodeKind
  | .located none (.path _) => .path
  | .located none (.pointer _) => .pointer
  | .computed none .path _ => .path
  | .computed none .pointer _ => .pointer
  | .called none _ => .call

/-- Gives a bare reference a role; every other value stays. -/
def withRole (role : Role) : Value → Value
  | .located none address => .located (some role) address
  | .computed none dialect call => .computed (some role) dialect call
  | .called none call => .called (some role) call
  | value => value

def toNumeric? (value : Value) : Option Value :=
  let retyped := value.withRole .numeric
  if retyped.kind = .numeric then some retyped else none

def toBoolean? (value : Value) : Option Value :=
  let retyped := value.withRole .boolean
  if retyped.kind = .boolean then some retyped else none

/-- The value as an operand of an equality: values of every kind are kept. -/
def toObject (value : Value) : Value := value.withRole .object

mutual

def ofJson : Json → Value
  | .null => .object .null
  | .boolean truth => .boolean truth
  | .number value => .number value.toNumber
  | .string text => .string text
  | .array items => .array (ofItems items)
  | .object fields => .object (.json (.object fields))

def ofItems : List Json → List Value
  | [] => []
  | item :: items => ofJson item :: ofItems items

end

end Value

mutual

/-- Structural equality of values: numbers by their bits, addresses by their text. -/
def Value.same : Value → Value → Bool
  | .number left, .number right => left == right
  | .string left, .string right => left == right
  | .boolean left, .boolean right => left == right
  | .array left, .array right => Value.sameAll left right
  | .object left, .object right => left.same right
  | .located leftRole left, .located rightRole right => leftRole == rightRole && left.same right
  | .computed leftRole leftDialect left, .computed rightRole rightDialect right =>
      leftRole == rightRole && leftDialect == rightDialect && Call.same left right
  | .called leftRole left, .called rightRole right => leftRole == rightRole && Call.same left right
  | _, _ => false

def Value.sameAll : List Value → List Value → Bool
  | [], [] => true
  | left :: lefts, right :: rights => Value.same left right && Value.sameAll lefts rights
  | _, _ => false

/-- Structural equality of calls, which leaves implementations out. -/
def Call.same : Call → Call → Bool
  | .mk leftName lefts leftSignature _ _, .mk rightName rights rightSignature _ _ =>
      leftName == rightName && Value.sameAll lefts rights && leftSignature == rightSignature

end

instance : BEq Value := ⟨Value.same⟩

end Verdict
