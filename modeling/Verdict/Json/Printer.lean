import Verdict.Json.Basic

/-!
# Writing JSON

Documents are written without blanks. A string is written between double quotes; quotes, backslashes
and control characters are escaped and every other character stands for itself.
-/

set_option autoImplicit false

namespace Verdict

namespace Json

def hexDigit (value : Nat) : Char :=
  if value < 10 then Char.ofNat ('0'.toNat + value) else Char.ofNat ('a'.toNat + (value - 10))

def escaped (character : Char) : List Char :=
  if character = '"' then ['\\', '"']
  else if character = '\\' then ['\\', '\\']
  else if character = '\x08' then ['\\', 'b']
  else if character = '\x0c' then ['\\', 'f']
  else if character = '\n' then ['\\', 'n']
  else if character = '\r' then ['\\', 'r']
  else if character = '\t' then ['\\', 't']
  else if character.toNat < 0x20 then
    ['\\', 'u', '0', '0', hexDigit (character.toNat / 16), hexDigit (character.toNat % 16)]
  else [character]

def quoted (text : String) : List Char :=
  '"' :: (text.toList.flatMap escaped ++ ['"'])

mutual

def characters : Json → List Char
  | .null => ['n', 'u', 'l', 'l']
  | .boolean true => ['t', 'r', 'u', 'e']
  | .boolean false => ['f', 'a', 'l', 's', 'e']
  | .number value => value.text.toList
  | .string text => quoted text
  | .array items => '[' :: (itemCharacters items ++ [']'])
  | .object fields => '{' :: (fieldCharacters fields ++ ['}'])

def itemCharacters : List Json → List Char
  | [] => []
  | [item] => characters item
  | item :: items => characters item ++ ',' :: itemCharacters items

def fieldCharacters : List (String × Json) → List Char
  | [] => []
  | [(key, value)] => quoted key ++ ':' :: characters value
  | (key, value) :: fields =>
      quoted key ++ ':' :: (characters value ++ ',' :: fieldCharacters fields)

end

def compact (json : Json) : String := String.ofList json.characters

end Json

end Verdict
