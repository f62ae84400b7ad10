import Verdict.Pattern.Basic
import Verdict.Text.Script

/-!
# Named classes of patterns

The classes that a pattern names: the shorthands for digits, white space and word characters, the
classes of ASCII, and the classes by property. Names of properties are compared without regard to
case, separators and a leading `is`.
-/

set_option autoImplicit false

namespace Verdict

namespace Pattern

open Text (CharacterClass)

inductive Shorthand where
  | digit
  | space
  | word
deriving DecidableEq

namespace Shorthand

def members : Shorthand → CharacterClass
  | .digit => .table Text.Category.decimalNumber
  | .space => Text.Property.whiteSpace
  | .word => Text.wordCharacters

def narrowMembers : Shorthand → CharacterClass
  | .digit => .range '0' '9'
  | .space => .unionOf [.range '\t' '\r', .single ' ']
  | .word => Text.narrowWordCharacters

end Shorthand

def asciiClass? (name : String) : Option CharacterClass :=
  let lower : CharacterClass := .range 'a' 'z'
  let upper : CharacterClass := .range 'A' 'Z'
  let digit : CharacterClass := .range '0' '9'
  match name with
  | "alnum" => some (.unionOf [digit, upper, lower])
  | "alpha" => some (.union upper lower)
  | "ascii" => some (.range '\x00' '\x7f')
  | "blank" => some (.union (.single '\t') (.single ' '))
  | "cntrl" => some (.union (.range '\x00' '\x1f') (.single '\x7f'))
  | "digit" => some digit
  | "graph" => some (.range '!' '~')
  | "lower" => some lower
  | "print" => some (.range ' ' '~')
  | "punct" =>
      some (.unionOf [.range '!' '/', .range ':' '@', .range '[' '\x60', .range '\x7b' '~'])
  | "space" => some (.union (.range '\t' '\r') (.single ' '))
  | "upper" => some upper
  | "word" => some Text.narrowWordCharacters
  | "xdigit" => some (.unionOf [digit, .range 'A' 'F', .range 'a' 'f'])
  | _ => none

/-- A text without a leading `is` in any case. -/
def withoutIs : List Char → Option (List Char)
  | first :: second :: rest =>
      if first.toLower = 'i' && second.toLower = 's' then some rest else none
  | _ => none

def countingLetters (name : List Char) : List Char :=
  (name.filter fun character =>
    character.toNat < 0x80 && character != ' ' && character != '_' && character != '-').map
    Char.toLower

/-- The name of a property as it is compared. The one name whose `is` counts keeps it. -/
def comparedName (name : List Char) : String :=
  match withoutIs name with
  | none => String.ofList (countingLetters name)
  | some rest =>
      let letters := countingLetters rest
      if letters = ['c'] then "isc" else String.ofList letters

inductive PropertyQuery where
  | bare (name : List Char)
  | value (property name : List Char)
deriving DecidableEq

namespace PropertyQuery

def splitAt? (separator : List Char) : List Char → Option (List Char × List Char)
  | [] => none
  | character :: rest =>
      if separator.isPrefixOf (character :: rest) then
        some ([], (character :: rest).drop separator.length)
      else (splitAt? separator rest).map fun (front, back) => (character :: front, back)

/-- Reads what stands between braces: a name, or a property and a value with a sign between them. Of
the signs, the one that denies has no effect. -/
def ofText (text : List Char) : PropertyQuery :=
  match splitAt? ['!', '='] text with
  | some (property, name) => .value property name
  | none =>
      match splitAt? [':'] text with
      | some (property, name) => .value property name
      | none =>
          match splitAt? ['='] text with
          | some (property, name) => .value property name
          | none => .bare text

def members? : PropertyQuery → Option CharacterClass
  | .bare name =>
      let name := comparedName name
      (Text.property? name).or ((Text.category? name).or (Text.script? name))
  | .value property name =>
      let property := comparedName property
      let name := comparedName name
      if property = "gc" || property = "generalcategory" then Text.category? name
      else if property = "sc" || property = "script" then Text.script? name
      else if property = "scx" || property = "scriptextensions" then Text.scriptExtension? name
      else none

end PropertyQuery

end Pattern

end Verdict
