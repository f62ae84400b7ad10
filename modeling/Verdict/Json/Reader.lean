import Verdict.Json.Number

/-!
# Reading JSON

`Json.read?` reads a text as one JSON value and keeps the fields of objects as they are written;
`Json.document?` is the document that the text stands for.
-/

set_option autoImplicit false

namespace Verdict

namespace Json

def isBlank (character : Char) : Bool :=
  character = ' ' || character = '\t' || character = '\n' || character = '\r'

def skipBlanks (text : List Char) : List Char := text.dropWhile isBlank

def hexValue? (character : Char) : Option Nat :=
  if '0' ≤ character && character ≤ '9' then some (character.toNat - '0'.toNat)
  else if 'a' ≤ character && character ≤ 'f' then some (character.toNat - 'a'.toNat + 10)
  else if 'A' ≤ character && character ≤ 'F' then some (character.toNat - 'A'.toNat + 10)
  else none

def unit? (first second third fourth : Char) : Option Nat := do
  let first ← hexValue? first
  let second ← hexValue? second
  let third ← hexValue? third
  let fourth ← hexValue? fourth
  return ((first * 16 + second) * 16 + third) * 16 + fourth

def unescaped? : Char → Option Char
  | '"' => some '"'
  | '\\' => some '\\'
  | '/' => some '/'
  | 'b' => some '\x08'
  | 'f' => some '\x0c'
  | 'n' => some '\n'
  | 'r' => some '\r'
  | 't' => some '\t'
  | _ => none

/-- Reads a string from behind its opening quote to its closing one. A character outside the basic
plane is escaped as a pair of units; a unit of such a pair may not stand alone. -/
def readString? : List Char → Option (List Char × List Char)
  | [] => none
  | '"' :: rest => some ([], rest)
  | '\\' :: 'u' :: a :: b :: c :: d :: '\\' :: 'u' :: e :: f :: g :: h :: rest =>
      match unit? a b c d with
      | none => none
      | some high =>
          if 0xD800 ≤ high && high < 0xDC00 then
            match unit? e f g h with
            | none => none
            | some low =>
                if 0xDC00 ≤ low && low < 0xE000 then
                  (readString? rest).map fun (text, rest) =>
                    (Char.ofNat (0x10000 + (high - 0xD800) * 0x400 + (low - 0xDC00)) :: text, rest)
                else none
          else if 0xDC00 ≤ high && high < 0xE000 then none
          else
            (readString? ('\\' :: 'u' :: e :: f :: g :: h :: rest)).map fun (text, rest) =>
              (Char.ofNat high :: text, rest)
  | '\\' :: 'u' :: a :: b :: c :: d :: rest =>
      match unit? a b c d with
      | none => none
      | some unit =>
          if 0xD800 ≤ unit && unit < 0xE000 then none
          else (readString? rest).map fun (text, rest) => (Char.ofNat unit :: text, rest)
  | '\\' :: letter :: rest =>
      match unescaped? letter with
      | none => none
      | some character => (readString? rest).map fun (text, rest) => (character :: text, rest)
  | character :: rest =>
      if character.toNat < 0x20 || character = '\\' then none
      else (readString? rest).map fun (text, rest) => (character :: text, rest)
termination_by text => text.length

/-- Reads a numeral: no digit may follow a leading zero. -/
def readNumber? (text : List Char) : Option (JsonNumber × List Char) := do
  let (numeral, rest) ← Numeral.scan text
  if numeral.whole.length > 1 && numeral.whole.head? = some '0' then none
  else some (JsonNumber.ofNumeral numeral, rest)

def expect? : List Char → List Char → Option (List Char)
  | [], text => some text
  | _ :: _, [] => none
  | wanted :: more, found :: text => if wanted = found then expect? more text else none

mutual

/-- Reads one value off the front of a text; `fuel` bounds the nesting. -/
def readValue? : Nat → List Char → Option (Json × List Char)
  | 0, _ => none
  | fuel + 1, text =>
      match skipBlanks text with
      | '"' :: rest =>
          (readString? rest).map fun (text, rest) => (.string (String.ofList text), rest)
      | '[' :: rest =>
          match skipBlanks rest with
          | ']' :: rest => some (.array [], rest)
          | _ => (readItems? fuel rest).map fun (items, rest) => (.array items, rest)
      | '{' :: rest =>
          match skipBlanks rest with
          | '}' :: rest => some (.object [], rest)
          | _ => (readFields? fuel rest).map fun (fields, rest) => (.object fields, rest)
      | 'n' :: rest => (expect? "ull".toList rest).map fun rest => (.null, rest)
      | 't' :: rest => (expect? "rue".toList rest).map fun rest => (.boolean true, rest)
      | 'f' :: rest => (expect? "alse".toList rest).map fun rest => (.boolean false, rest)
      | text => (readNumber? text).map fun (value, rest) => (.number value, rest)

def readItems? : Nat → List Char → Option (List Json × List Char)
  | 0, _ => none
  | fuel + 1, text => do
      let (item, rest) ← readValue? fuel text
      match skipBlanks rest with
      | ',' :: rest =>
          let (items, rest) ← readItems? fuel rest
          return (item :: items, rest)
      | ']' :: rest => return ([item], rest)
      | _ => none

def readFields? : Nat → List Char → Option (List (String × Json) × List Char)
  | 0, _ => none
  | fuel + 1, text =>
      match skipBlanks text with
      | '"' :: rest => do
          let (key, rest) ← readString? rest
          match skipBlanks rest with
          | ':' :: rest =>
              let (value, rest) ← readValue? fuel rest
              match skipBlanks rest with
              | ',' :: rest =>
                  let (fields, rest) ← readFields? fuel rest
                  return ((String.ofList key, value) :: fields, rest)
              | '}' :: rest => return ([(String.ofList key, value)], rest)
              | _ => none
          | _ => none
      | _ => none

end

def read? (text : String) : Option Json :=
  let characters := text.toList
  match readValue? (characters.length + 1) characters with
  | some (json, rest) => if (skipBlanks rest).isEmpty then some json else none
  | none => none

/-- The document that a text stands for; a number out of range is refused. -/
def document? (text : String) : Option Json :=
  match read? text with
  | some json => if json.inRange then some json.normalized else none
  | none => none

end Json

end Verdict
