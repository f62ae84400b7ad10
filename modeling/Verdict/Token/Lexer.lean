import Verdict.Error
import Verdict.Number.Numeral
import Verdict.Text.Identifier
import Verdict.Token.Basic

/-!
# Cutting a text into tokens

`Token.scan` takes one token off the front of a text, always the longest that its first character
admits, together with the number of bytes it covers. `tokenize` repeats it to the end of the text,
skipping blanks, line feeds, carriage returns and tabs between tokens.
-/

set_option autoImplicit false

namespace Verdict

def byteSize : List Char → Nat
  | [] => 0
  | character :: rest => character.utf8Size + byteSize rest

namespace Token

def isSeparator (character : Char) : Bool :=
  character = ' ' || character = '\t' || character = '\r' || character = '\n'

def unescape? : Char → Option Char
  | 'n' => some '\n'
  | 't' => some '\t'
  | 'r' => some '\r'
  | '\\' => some '\\'
  | '\'' => some '\''
  | '"' => some '"'
  | '/' => some '/'
  | _ => none

/-- What is behind the opening quote of a string: its text, the bytes up to and with the closing
quote, and the rest; or the fault and its distance from the opening quote, when it is not the string
as a whole that is at fault. -/
inductive StringScan where
  | closed (text : List Char) (size : Nat) (rest : List Char)
  | invalidEscape (letter : Char) (offset : Nat)
  | unclosed

namespace StringScan

def prepend (character : Char) (bytes : Nat) : StringScan → StringScan
  | .closed text size rest => .closed (character :: text) (bytes + size) rest
  | .invalidEscape letter offset => .invalidEscape letter (bytes + offset)
  | .unclosed => .unclosed

def read (quote : Char) : List Char → StringScan
  | [] => .unclosed
  | character :: rest =>
      if character = quote then .closed [] character.utf8Size rest
      else if character = '\\' then
        match rest with
        | [] => .unclosed
        | letter :: rest =>
            match unescape? letter with
            | none => .invalidEscape letter 0
            | some meant => (read quote rest).prepend meant (character.utf8Size + letter.utf8Size)
      else (read quote rest).prepend character character.utf8Size

end StringScan

def beginsIdentifier (character : Char) : Bool :=
  Text.isIdentifierStart character || character = '_'

def scanPart? : List Char → Option (List Char × List Char)
  | [] => none
  | first :: rest =>
      if beginsIdentifier first then
        some (first :: rest.takeWhile Text.isIdentifierContinue,
          rest.dropWhile Text.isIdentifierContinue)
      else none

/-- Takes further parts, each behind a dot, off the front of a text; `fuel` bounds their number. -/
def scanParts : Nat → List Char → List Char × List Char
  | fuel + 1, '.' :: rest =>
      match scanPart? rest with
      | none => ([], '.' :: rest)
      | some (part, rest) =>
          let (more, rest) := scanParts fuel rest
          ('.' :: (part ++ more), rest)
  | _, text => ([], text)

def scanIdentifier? (text : List Char) : Option (List Char × List Char) :=
  match scanPart? text with
  | none => none
  | some (part, rest) =>
      let (more, rest) := scanParts rest.length rest
      some (part ++ more, rest)

/-- The token that an identifier text stands for: the two truth values are words of their own. -/
def ofIdentifier (name : List Char) : Token :=
  if name = ['t', 'r', 'u', 'e'] then .truth true
  else if name = ['f', 'a', 'l', 's', 'e'] then .truth false
  else .identifier (String.ofList name)

/-- Takes a mark off the front of a text, of two characters if possible. -/
def scanMark? : List Char → Option (Mark × List Char)
  | '=' :: '=' :: rest => some (.equal, rest)
  | '!' :: '=' :: rest => some (.notEqual, rest)
  | '>' :: '=' :: rest => some (.greaterEqual, rest)
  | '<' :: '=' :: rest => some (.lessEqual, rest)
  | '&' :: '&' :: rest => some (.all, rest)
  | '|' :: '|' :: rest => some (.any, rest)
  | '>' :: rest => some (.greater, rest)
  | '<' :: rest => some (.less, rest)
  | '&' :: rest => some (.both, rest)
  | '|' :: rest => some (.either, rest)
  | '^' :: rest => some (.negation, rest)
  | '(' :: rest => some (.openParen, rest)
  | ')' :: rest => some (.closeParen, rest)
  | '[' :: rest => some (.openBracket, rest)
  | ']' :: rest => some (.closeBracket, rest)
  | ',' :: rest => some (.comma, rest)
  | _ => none

/-- Takes one token off the front of a text that is not empty and does not begin with a separator;
answers the token, the bytes that it covers and the rest, or a fault and its distance from the front
of the text. -/
def scan (text : List Char) : Except (Fault × Nat) (Token × Nat × List Char) :=
  match Numeral.scan text with
  | some (numeral, rest) =>
      let value := numeral.value
      if value.isFinite then .ok (.number value, byteSize numeral.text, rest)
      else .error (.invalidNumber (String.ofList numeral.text), 0)
  | none =>
      match text with
      | [] => .error (.unexpectedEnd "a token", 0)
      | first :: behind =>
          if first = '\'' || first = '"' then
            match StringScan.read first behind with
            | .closed content size rest =>
                .ok (.string (String.ofList content), first.utf8Size + size, rest)
            | .invalidEscape letter offset =>
                .error (.invalidEscape letter, first.utf8Size + offset)
            | .unclosed => .error (.unclosedString, 0)
          else
            match scanIdentifier? text with
            | some (name, rest) => .ok (ofIdentifier name, byteSize name, rest)
            | none =>
                match scanMark? text with
                | some (sign, rest) => .ok (.mark sign, sign.text.utf8ByteSize, rest)
                | none => .error (.unexpectedCharacter first, 0)

def scanAll : Nat → Nat → List Char → Except ParseError (List Spanned)
  | fuel, offset, text =>
      let blanks := text.takeWhile isSeparator
      let start := offset + blanks.length
      match text.dropWhile isSeparator with
      | [] => .ok []
      | first :: behind =>
          match scan (first :: behind) with
          | .error (fault, distance) => .error ⟨fault, start + distance⟩
          | .ok (token, size, rest) =>
              match fuel with
              | 0 => .error ⟨.unexpectedCharacter first, start⟩
              | fuel + 1 => (scanAll fuel (start + size) rest).map fun tokens =>
                  ⟨token, start, start + size⟩ :: tokens

end Token

def tokenize (text : String) : Except ParseError (List Spanned) :=
  let characters := text.toList
  Token.scanAll characters.length 0 characters

end Verdict
