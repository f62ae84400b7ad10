import Verdict.Number.Layout

/-!
# JSON documents

A JSON value keeps whole numbers apart from decimals, as its text does. A document holds the fields
of every object in the order of their keys, each key once. `Json.same` is equality of documents:
decimals are compared by value and a whole number never equals a decimal.
-/

set_option autoImplicit false

namespace Verdict

/-- A number in a document, as a whole number of 64 bits or as a decimal. -/
inductive JsonNumber where
  | whole (value : Int)
  | decimal (value : Number)
deriving DecidableEq

namespace JsonNumber

def toNumber : JsonNumber → Number
  | .whole value => Number.ofInt value
  | .decimal value => value

def same : JsonNumber → JsonNumber → Bool
  | .whole left, .whole right => left == right
  | .decimal left, .decimal right => left.sameValue right
  | _, _ => false

def text : JsonNumber → String
  | .whole value => toString value
  | .decimal value => value.inJson

end JsonNumber

inductive Json where
  | null
  | boolean (truth : Bool)
  | number (value : JsonNumber)
  | string (text : String)
  | array (items : List Json)
  | object (fields : List (String × Json))
deriving Inhabited

inductive JsonKind where
  | string
  | number
  | boolean
  | array
  | object
  | null
  | missing
deriving DecidableEq

namespace JsonKind

def text : JsonKind → String
  | .string => "STRING"
  | .number => "NUMBER"
  | .boolean => "BOOLEAN"
  | .array => "ARRAY"
  | .object => "OBJECT"
  | .null => "NULL"
  | .missing => "MISSING"

end JsonKind

namespace Json

def kind : Json → JsonKind
  | .null => .null
  | .boolean _ => .boolean
  | .number _ => .number
  | .string _ => .string
  | .array _ => .array
  | .object _ => .object

def kindOf? : Option Json → JsonKind
  | none => .missing
  | some json => json.kind

mutual

def same : Json → Json → Bool
  | .null, .null => true
  | .boolean left, .boolean right => left == right
  | .number left, .number right => left.same right
  | .string left, .string right => left == right
  | .array left, .array right => sameItems left right
  | .object left, .object right => sameFields left right
  | _, _ => false

def sameItems : List Json → List Json → Bool
  | [], [] => true
  | left :: lefts, right :: rights => same left right && sameItems lefts rights
  | _, _ => false

def sameFields : List (String × Json) → List (String × Json) → Bool
  | [], [] => true
  | (leftKey, left) :: lefts, (rightKey, right) :: rights =>
      leftKey == rightKey && same left right && sameFields lefts rights
  | _, _ => false

end

/-- Puts a field in the place of its key, replacing a field of the same key. -/
def insertField (key : String) (value : Json) : List (String × Json) → List (String × Json)
  | [] => [(key, value)]
  | (otherKey, other) :: rest =>
      if key = otherKey then (key, value) :: rest
      else if key < otherKey then (key, value) :: (otherKey, other) :: rest
      else (otherKey, other) :: insertField key value rest

mutual

/-- The document that a written value stands for: fields in the order of their keys, the last of
several fields of one key. -/
def normalized : Json → Json
  | .array items => .array (normalizedItems items)
  | .object fields => .object (normalizedFields fields [])
  | json => json

def normalizedItems : List Json → List Json
  | [] => []
  | item :: items => normalized item :: normalizedItems items

def normalizedFields : List (String × Json) → List (String × Json) → List (String × Json)
  | [], ordered => ordered
  | (key, value) :: fields, ordered =>
      normalizedFields fields (insertField key (normalized value) ordered)

end

mutual

def inRange : Json → Bool
  | .number (.decimal value) => value.isFinite
  | .array items => itemsInRange items
  | .object fields => fieldsInRange fields
  | _ => true

def itemsInRange : List Json → Bool
  | [] => true
  | item :: items => inRange item && itemsInRange items

def fieldsInRange : List (String × Json) → Bool
  | [] => true
  | (_, value) :: fields => inRange value && fieldsInRange fields

end

def field? (key : String) : Json → Option Json
  | .object fields => fields.lookup key
  | _ => none

end Json

end Verdict
