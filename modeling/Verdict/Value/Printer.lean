import Verdict.Value.Basic

/-!
# Writing values

A string is written between single quotes. The quote, the backslash, the line feed and the tab are
escaped, every other character stands for itself. Addresses are written as strings: their first
character tells what they are.
-/

set_option autoImplicit false

namespace Verdict

namespace Text

def escaped (character : Char) : List Char :=
  if character = '\'' then ['\\', '\'']
  else if character = '\\' then ['\\', '\\']
  else if character = '\n' then ['\\', 'n']
  else if character = '\t' then ['\\', 't']
  else [character]

def quoted (text : List Char) : List Char := '\'' :: (text.flatMap escaped ++ ['\''])

end Text

mutual

def Value.characters : Value → List Char
  | .number value => value.display.toList
  | .string text => Text.quoted text.toList
  | .boolean true => ['t', 'r', 'u', 'e']
  | .boolean false => ['f', 'a', 'l', 's', 'e']
  | .array items => '[' :: (Value.listCharacters items ++ [']'])
  | .object value => value.characters
  | .located _ address => Text.quoted address.text.toList
  | .computed _ _ call => Call.characters call
  | .called _ call => Call.characters call

def Value.listCharacters : List Value → List Char
  | [] => []
  | [value] => Value.characters value
  | value :: values => Value.characters value ++ ',' :: ' ' :: Value.listCharacters values

def Call.characters : Call → List Char
  | .mk name arguments _ _ _ => name.toList ++ '(' :: (Value.listCharacters arguments ++ [')'])

end

namespace Value

def display (value : Value) : String := String.ofList value.characters

end Value

end Verdict
