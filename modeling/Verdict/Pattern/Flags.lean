import Verdict.Text.Blank

/-!
# Flags of patterns

Letters that change how the text of a pattern is read, up to the end of the group in which they are
set. `skipBlanks` passes over what does not count in a verbose text: white space, and comments from
a number sign to the end of the line.
-/

set_option autoImplicit false

namespace Verdict

namespace Pattern

inductive Flag where
  | ignoreCase
  | multiLine
  | dotAll
  | swapGreed
  | unicode
  | carriageReturn
  | verbose
deriving DecidableEq

/-- The state of the flags. Which of the copies of a repetition is preferred has no effect here. -/
structure Flags where
  ignoreCase : Bool := false
  multiLine : Bool := false
  dotAll : Bool := false
  /-- Classes extend beyond ASCII. -/
  unicode : Bool := true
  /-- A carriage return ends a line too. -/
  carriageReturn : Bool := false
  verbose : Bool := false

namespace Flag

def ofLetter? : Char → Option Flag
  | 'i' => some .ignoreCase
  | 'm' => some .multiLine
  | 's' => some .dotAll
  | 'U' => some .swapGreed
  | 'u' => some .unicode
  | 'R' => some .carriageReturn
  | 'x' => some .verbose
  | _ => none

end Flag

namespace Flags

def set (flags : Flags) (on : Bool) : Flag → Flags
  | .ignoreCase => { flags with ignoreCase := on }
  | .multiLine => { flags with multiLine := on }
  | .dotAll => { flags with dotAll := on }
  | .swapGreed => flags
  | .unicode => { flags with unicode := on }
  | .carriageReturn => { flags with carriageReturn := on }
  | .verbose => { flags with verbose := on }

end Flags

inductive FlagScope where
  /-- The flags hold from here on in the group that they stand in. -/
  | onward
  /-- The flags hold in a group of their own, which follows. -/
  | group

/-- Reads flags up to and with the character that ends them. No flag may be given twice, and a minus
sign, of which there is at most one, must be followed by a flag. -/
def readFlags? (seen : List Flag) (negated : Bool) (dangling : Bool) (flags : Flags) :
    List Char → Option (Flags × FlagScope × List Char)
  | [] => none
  | ':' :: rest => if dangling then none else some (flags, .group, rest)
  | ')' :: rest => if dangling || seen.isEmpty then none else some (flags, .onward, rest)
  | '-' :: rest => if negated then none else readFlags? seen true true flags rest
  | letter :: rest =>
      match Flag.ofLetter? letter with
      | none => none
      | some flag =>
          if flag ∈ seen then none
          else readFlags? (flag :: seen) negated false (flags.set (!negated) flag) rest

/-- Passes over white space and comments; `inside` tells whether the text begins inside a comment.
-/
def skipVerbose : Bool → List Char → List Char
  | _, [] => []
  | true, character :: rest => skipVerbose (character != '\n') rest
  | false, character :: rest =>
      if Text.isBlank character then skipVerbose false rest
      else if character = '#' then skipVerbose true rest
      else character :: rest

def skipBlanks (flags : Flags) (text : List Char) : List Char :=
  if flags.verbose then skipVerbose false text else text

/-- The first character that counts, for telling whether a minus sign stands for a range. Here white
space does not count inside a comment either, so that a comment shows its first character. -/
def peekVerbose? (text : List Char) : Option Char :=
  match text.dropWhile Text.isBlank with
  | [] => text.head?
  | '#' :: rest =>
      match rest.dropWhile Text.isBlank with
      | [] => text.head?
      | character :: _ => some character
  | character :: _ => some character

def peek? (flags : Flags) (text : List Char) : Option Char :=
  if flags.verbose then peekVerbose? text else text.head?

end Pattern

end Verdict
