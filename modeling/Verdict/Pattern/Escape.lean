import Verdict.Pattern.Flags
import Verdict.Pattern.Named

/-!
# Escapes of patterns

What a backslash and the characters behind it stand for. A digit is refused, since there are no
references to groups, and so is a letter without a meaning.
-/

set_option autoImplicit false

namespace Verdict

namespace Pattern

inductive Escape where
  /-- A character; `isByte` if it is spelled by exactly two digits. -/
  | literal (character : Char) (isByte : Bool)
  | textStart
  | textStop
  | word (edge : WordEdge)
  | shorthand (kind : Shorthand) (negated : Bool)
  | property (query : PropertyQuery) (negated : Bool)

def hexDigit? (character : Char) : Option Nat :=
  if '0' ≤ character && character ≤ '9' then some (character.toNat - '0'.toNat)
  else if 'a' ≤ character && character ≤ 'f' then some (character.toNat - 'a'.toNat + 10)
  else if 'A' ≤ character && character ≤ 'F' then some (character.toNat - 'A'.toNat + 10)
  else none

def character? (code : Nat) : Option Char :=
  if code.isValidChar then some (Char.ofNat code) else none

/-- Reads a number of hexadecimal digits behind a value; blanks behind a digit are passed over. -/
def readHexDigits? (flags : Flags) : Nat → Nat → List Char → Option (Nat × List Char)
  | 0, value, text => some (value, text)
  | _ + 1, _, [] => none
  | count + 1, value, character :: rest =>
      match hexDigit? character with
      | none => none
      | some digit => readHexDigits? flags count (16 * value + digit) (skipBlanks flags rest)

def hexValue? : List Char → Option Nat
  | [] => none
  | digits => digits.foldlM (fun value character =>
      (hexDigit? character).map fun digit => 16 * value + digit) 0

def upToBrace? (flags : Flags) : Nat → List Char → Option (List Char × List Char)
  | 0, _ => none
  | fuel + 1, text =>
      match skipBlanks flags text with
      | [] => none
      | '\x7d' :: rest => some ([], rest)
      | character :: rest =>
          (upToBrace? flags fuel rest).map fun (front, back) => (character :: front, back)

/-- Reads a code point in hexadecimal behind its letter: exactly so many digits, or any number of
them in braces. -/
def readCodePoint? (flags : Flags) (digits : Nat) (isByte : Bool) (text : List Char) :
    Option (Escape × List Char) :=
  match skipBlanks flags text with
  | '\x7b' :: rest => do
      let (inner, rest) ← upToBrace? flags (rest.length + 1) rest
      let character ← (← hexValue? inner) |> character?
      return (.literal character false, rest)
  | text => do
      let (code, rest) ← readHexDigits? flags digits 0 text
      let character ← character? code
      return (.literal character isByte, rest)

def readProperty? (flags : Flags) (negated : Bool) (text : List Char) :
    Option (Escape × List Char) :=
  match skipBlanks flags text with
  | [] => none
  | '\x7b' :: rest =>
      (upToBrace? flags (rest.length + 1) rest).map fun (inner, rest) =>
        (.property (.ofText inner) negated, rest)
  | '\\' :: _ => none
  | letter :: rest => some (.property (.bare [letter]) negated, rest)

def isEdgeLetter (character : Char) : Bool := character.isAlpha || character = '-'

def edgeLetters (flags : Flags) : Nat → List Char → List Char × List Char
  | fuel + 1, character :: rest =>
      if isEdgeLetter character then
        let (letters, rest) := edgeLetters flags fuel (skipBlanks flags rest)
        (character :: letters, rest)
      else ([], character :: rest)
  | _, text => ([], text)

def namedEdge? (name : String) : Option WordEdge :=
  match name with
  | "start" => some .start
  | "end" => some .stop
  | "start-half" => some .startHalf
  | "end-half" => some .stopHalf
  | _ => none

/-- Reads what is behind the letter of a word boundary. Braces that begin with no letter of a name
are left for the count of a repetition. -/
def readBoundary? (flags : Flags) (text : List Char) : Option (Escape × List Char) :=
  match text with
  | '\x7b' :: rest =>
      match skipBlanks flags rest with
      | [] => none
      | first :: behind =>
          if isEdgeLetter first then
            match edgeLetters flags (behind.length + 1) (first :: behind) with
            | (letters, '\x7d' :: rest) =>
                (namedEdge? (String.ofList letters)).map fun edge => (.word edge, rest)
            | _ => none
          else some (.word .boundary, text)
  | _ => some (.word .boundary, text)

def isEscapable (character : Char) : Bool := character.toNat < 0x80 && !character.isAlphanum

def readEscape? (flags : Flags) : List Char → Option (Escape × List Char)
  | [] => none
  | letter :: rest =>
      let literal (character : Char) : Option (Escape × List Char) :=
        some (.literal character false, rest)
      match letter with
      | 'x' => readCodePoint? flags 2 true rest
      | 'u' => readCodePoint? flags 4 false rest
      | 'U' => readCodePoint? flags 8 false rest
      | 'p' => readProperty? flags false rest
      | 'P' => readProperty? flags true rest
      | 'd' => some (.shorthand .digit false, rest)
      | 'D' => some (.shorthand .digit true, rest)
      | 's' => some (.shorthand .space false, rest)
      | 'S' => some (.shorthand .space true, rest)
      | 'w' => some (.shorthand .word false, rest)
      | 'W' => some (.shorthand .word true, rest)
      | 'a' => literal '\x07'
      | 'f' => literal '\x0c'
      | 't' => literal '\t'
      | 'n' => literal '\n'
      | 'r' => literal '\r'
      | 'v' => literal '\x0b'
      | 'A' => some (.textStart, rest)
      | 'z' => some (.textStop, rest)
      | 'b' => readBoundary? flags rest
      | 'B' => some (.word .within, rest)
      | '<' => some (.word .start, rest)
      | '>' => some (.word .stop, rest)
      | mark => if isEscapable mark then literal mark else none

end Pattern

end Verdict
