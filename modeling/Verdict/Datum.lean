import Verdict.Json.Printer

/-!
# Data

A datum is what an operand comes to: null, a scalar, a list of data or a JSON object. Equality never
crosses kinds. Numbers are equal when their values are, the zeros and all NaNs included; objects are
equal as documents are.
-/

set_option autoImplicit false

namespace Verdict

inductive Datum where
  | null
  | boolean (truth : Bool)
  | number (value : Number)
  | string (text : String)
  | list (items : List Datum)
  | json (value : Json)
deriving Inhabited

namespace Datum

mutual

/-- The datum of a document value: numbers lose their storage, arrays become lists, objects stay. -/
def ofJson : Json → Datum
  | .null => .null
  | .boolean truth => .boolean truth
  | .number value => .number value.toNumber
  | .string text => .string text
  | .array items => .list (ofItems items)
  | .object fields => .json (.object fields)

def ofItems : List Json → List Datum
  | [] => []
  | item :: items => ofJson item :: ofItems items

end

mutual

def same : Datum → Datum → Bool
  | .null, .null => true
  | .boolean left, .boolean right => left == right
  | .number left, .number right => left.canonicalBits == right.canonicalBits
  | .string left, .string right => left == right
  | .list left, .list right => sameItems left right
  | .json left, .json right => left.same right
  | _, _ => false

def sameItems : List Datum → List Datum → Bool
  | [], [] => true
  | left :: lefts, right :: rights => same left right && sameItems lefts rights
  | _, _ => false

end

instance : BEq Datum := ⟨same⟩

def isNull : Datum → Bool
  | .null => true
  | _ => false

def typeName : Datum → String
  | .null => "null"
  | .boolean _ => "boolean"
  | .number _ => "number"
  | .string _ => "string"
  | .list _ => "array"
  | .json _ => "object"

mutual

/-- The characters of a datum: strings in the JSON form, lists with a blank after each comma. -/
def characters : Datum → List Char
  | .null => ['n', 'u', 'l', 'l']
  | .boolean true => ['t', 'r', 'u', 'e']
  | .boolean false => ['f', 'a', 'l', 's', 'e']
  | .number value => value.display.toList
  | .string text => Json.quoted text
  | .list items => '[' :: (itemCharacters items ++ [']'])
  | .json value => value.characters

def itemCharacters : List Datum → List Char
  | [] => []
  | [item] => characters item
  | item :: items => characters item ++ ',' :: ' ' :: itemCharacters items

end

def display (datum : Datum) : String := String.ofList datum.characters

/-- A text as it enters a fingerprint: its characters and an end mark that is no character. -/
def textFingerprint (text : List Char) : List Nat := text.map Char.toNat ++ [0x110000]

mutual

/-- The words that identify a datum in a hashed collection. A number enters by its canonical bits
and an object by its text. -/
def fingerprint : Datum → List Nat
  | .null => [0]
  | .boolean truth => [1, truth.toNat]
  | .number value => [2, value.canonicalBits.toNat]
  | .string text => 3 :: textFingerprint text.toList
  | .list items => 4 :: items.length :: itemFingerprints items
  | .json value => 5 :: textFingerprint value.characters

def itemFingerprints : List Datum → List Nat
  | [] => []
  | item :: items => fingerprint item ++ itemFingerprints items

end

end Datum

/-- For each member of a list the index of the first member that is the same. -/
def classIndexes {α : Type} (same : α → α → Bool) (members : List α) : List Nat :=
  members.map fun member => members.findIdx fun other => same other member

/-- The members that a hashed collection keeps: a member is dropped if an earlier one is the same
and has the same fingerprint. What a collection does with members that are the same and have
different fingerprints depends on its hash function, which may still tell them alike; here they are
always told apart. -/
def distinctMembers {α : Type} (same : α → α → Bool) (fingerprint : α → List Nat)
    (members : List α) : List α :=
  members.foldl (fun kept member =>
    if kept.any fun other => fingerprint other == fingerprint member && same other member then kept
    else kept ++ [member]) []

end Verdict
