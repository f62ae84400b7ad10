import Verdict.Pattern.Bracket
import Verdict.Pattern.Weight

/-!
# Reading patterns

`Pattern.ofText?` reads the text of a pattern. A text is refused when it is malformed, when its
parts are nested too deeply, or when the pattern weighs too much. Flags that are set inside a group
hold to its end, across the bars that separate its branches.
-/

set_option autoImplicit false

namespace Verdict

namespace Pattern

open Text (CharacterClass)

/-- What has been read of a pattern, and how deep its parts are nested. -/
structure Part where
  pattern : Pattern
  nesting : Nat

inductive Item where
  | piece (part : Part)
  | flags

namespace Item

def nesting : Item → Nat
  | .piece part => part.nesting
  | .flags => 0

def pattern? : Item → Option Pattern
  | .piece part => some part.pattern
  | .flags => none

end Item

/-- Joins the items of a sequence, given from the last to the first. Two items or more are one level
deeper. -/
def joinItems (items : List Item) : Part :=
  let pattern := sequenceOf (items.reverse.filterMap Item.pattern?)
  let deepest := (items.map Item.nesting).foldl max 0
  ⟨pattern, if items.length ≤ 1 then deepest else deepest + 1⟩

/-- Joins the branches of a group, given from the last to the first. Two branches or more are one
level deeper. -/
def joinBranches (last : Part) (earlier : List Part) : Part :=
  match earlier.reverse with
  | [] => last
  | first :: others =>
      let deepest := (earlier.map Part.nesting).foldl max last.nesting
      ⟨choiceOf first.pattern (others.map Part.pattern ++ [last.pattern]), deepest + 1⟩

/-- Repeats the last item of a sequence; flags and the front of a sequence cannot be repeated. -/
def repeatLast? (items : List Item) (least : Nat) (most : Option Nat) : Option (List Item) :=
  match items with
  | .piece part :: earlier =>
      some (.piece ⟨.repetition part.pattern least most, part.nesting + 1⟩ :: earlier)
  | _ => none

def literalPattern (flags : Flags) (character : Char) : Pattern :=
  let members := CharacterClass.single character
  .one <|
    if !flags.ignoreCase then members
    else if flags.unicode then
      if (Text.caseVariants character).length ≤ 1 then members else .folded members
    else if character.isAlpha then .asciiFolded members
    else members

def escapePattern? (flags : Flags) : Escape → Option Pattern
  | .literal character isByte =>
      if !flags.unicode && isByte && 0x80 ≤ character.toNat then none
      else some (literalPattern flags character)
  | .textStart => some (.look .textStart)
  | .textStop => some (.look .textStop)
  | .word edge => some (.look (.word edge (!flags.unicode)))
  | .shorthand kind negated => (shorthandClass? flags kind negated).map .one
  | .property query negated => (propertyClass? flags query negated).map .one

def dotPattern? (flags : Flags) : Option Pattern :=
  let excluded : CharacterClass :=
    if flags.dotAll then .nothing
    else if flags.carriageReturn then .union (.single '\n') (.single '\r')
    else .single '\n'
  if flags.unicode then some (.one (.complement excluded)) else none

def startLook (flags : Flags) : Look :=
  if !flags.multiLine then .textStart
  else if flags.carriageReturn then .breakStart
  else .lineStart

def stopLook (flags : Flags) : Look :=
  if !flags.multiLine then .textStop
  else if flags.carriageReturn then .breakStop
  else .lineStop

/-- Reads what is neither a group, a bracket, a bar nor a repetition. -/
def readSimple? (flags : Flags) : List Char → Option (Pattern × List Char)
  | [] => none
  | '\\' :: rest => do
      let (escape, rest) ← readEscape? flags rest
      return (← escapePattern? flags escape, rest)
  | '.' :: rest => (dotPattern? flags).map fun pattern => (pattern, rest)
  | '^' :: rest => some (.look (startLook flags), rest)
  | '$' :: rest => some (.look (stopLook flags), rest)
  | character :: rest => some (literalPattern flags character, rest)

/-! ## Repetitions -/

def skipGreed : List Char → List Char
  | '?' :: rest => rest
  | text => text

def readDigits (flags : Flags) : Nat → Option Nat → List Char → Option Nat × List Char
  | fuel + 1, value, character :: rest =>
      if character.isDigit then
        readDigits flags fuel (some (10 * value.getD 0 + (character.toNat - '0'.toNat)))
          (skipBlanks flags rest)
      else (value, character :: rest)
  | _, value, text => (value, text)

/-- Passes over white space, which may stand around a count in every text; `fuel` bounds its length.
-/
def skipAround (flags : Flags) : Nat → List Char → List Char
  | fuel + 1, character :: rest =>
      if Text.isBlank character then skipAround flags fuel (skipBlanks flags rest)
      else character :: rest
  | _, text => text

/-- Reads a count of 32 bits and the white space around it. -/
def readCount? (flags : Flags) (text : List Char) : Option (Nat × List Char) :=
  let text := text.dropWhile Text.isBlank
  match readDigits flags text.length none text with
  | (some count, rest) =>
      if count < 0x100000000 then some (count, skipAround flags rest.length rest) else none
  | (none, _) => none

def readBounds? (flags : Flags) (text : List Char) : Option (Nat × Option Nat × List Char) := do
  let (least, rest) ← readCount? flags (skipBlanks flags text)
  match rest with
  | '\x7d' :: rest => return (least, some least, rest)
  | ',' :: rest =>
      match skipBlanks flags rest with
      | '\x7d' :: rest => return (least, none, rest)
      | rest =>
          let (most, rest) ← readCount? flags rest
          match rest with
          | '\x7d' :: rest => if least ≤ most then return (least, some most, rest) else none
          | _ => none
  | _ => none

/-! ## Groups -/

def isNameCharacter (isFirst : Bool) (character : Char) : Bool :=
  let isLetter := Text.Property.alphabetic.contains character
  if isFirst then character = '_' || isLetter
  else
    character = '_' || character = '.' || character = '[' || character = ']' || isLetter ||
      Text.Category.number.contains character

def isGroupName : List Char → Bool
  | [] => false
  | first :: others => isNameCharacter true first && others.all (isNameCharacter false)

def readName? (text : List Char) : Option (List Char × List Char) :=
  let name := text.takeWhile (· != '>')
  match text.dropWhile (· != '>') with
  | _ :: rest => if isGroupName name then some (name, rest) else none
  | [] => none

inductive Opening where
  | group (name : Option (List Char)) (flags : Flags)
  /-- No group but flags that hold from here on. -/
  | flags (flags : Flags)

/-- Reads what opens a group from behind its parenthesis. Conditions on what stands around a
position beyond the next characters are refused. -/
def readOpening? (flags : Flags) (text : List Char) : Option (Opening × List Char) :=
  match skipBlanks flags text with
  | '?' :: '=' :: _ => none
  | '?' :: '!' :: _ => none
  | '?' :: '<' :: '=' :: _ => none
  | '?' :: '<' :: '!' :: _ => none
  | '?' :: 'P' :: '<' :: rest =>
      (readName? rest).map fun (name, rest) => (.group (some name) flags, rest)
  | '?' :: '<' :: rest =>
      (readName? rest).map fun (name, rest) => (.group (some name) flags, rest)
  | '?' :: rest =>
      match readFlags? [] false false flags rest with
      | none => none
      | some (flags, .onward, rest) => some (.flags flags, rest)
      | some (flags, .group, rest) => some (.group none flags, rest)
  | rest => some (.group none flags, rest)

def useName? (names : List (List Char)) : Option (List Char) → Option (List (List Char))
  | none => some names
  | some name => if name ∈ names then none else some (name :: names)

/-- Reads branches up to the end of their group, which is left, or to the end of the text. Items and
branches are those that have been read, from the last to the first; names are those in use. `fuel`
bounds the length of the text. -/
def readBranches? :
    Nat → Flags → List (List Char) → List Item → List Part → List Char →
      Option (Part × List (List Char) × List Char)
  | 0, _, _, _, _, _ => none
  | fuel + 1, flags, names, items, branches, text =>
      match skipBlanks flags text with
      | [] => some (joinBranches (joinItems items) branches, names, [])
      | ')' :: rest => some (joinBranches (joinItems items) branches, names, ')' :: rest)
      | '|' :: rest => readBranches? fuel flags names [] (joinItems items :: branches) rest
      | '(' :: rest =>
          match readOpening? flags rest with
          | none => none
          | some (.flags flags, rest) =>
              readBranches? fuel flags names (.flags :: items) branches rest
          | some (.group name innerFlags, rest) =>
              match useName? names name with
              | none => none
              | some names =>
                  match readBranches? fuel innerFlags names [] [] rest with
                  | some (inner, names, ')' :: rest) =>
                      readBranches? fuel flags names
                        (.piece { inner with nesting := inner.nesting + 1 } :: items) branches rest
                  | _ => none
      | '[' :: rest =>
          match readBracket? flags (rest.length + 1) rest with
          | none => none
          | some (part, rest) =>
              readBranches? fuel flags names (.piece ⟨.one part.members, part.nesting⟩ :: items)
                branches rest
      | '?' :: rest =>
          (repeatLast? items 0 (some 1)).bind fun items =>
            readBranches? fuel flags names items branches (skipGreed rest)
      | '*' :: rest =>
          (repeatLast? items 0 none).bind fun items =>
            readBranches? fuel flags names items branches (skipGreed rest)
      | '+' :: rest =>
          (repeatLast? items 1 none).bind fun items =>
            readBranches? fuel flags names items branches (skipGreed rest)
      | '\x7b' :: rest =>
          match readBounds? flags rest with
          | none => none
          | some (least, most, rest) =>
              (repeatLast? items least most).bind fun items =>
                readBranches? fuel flags names items branches (skipGreed (skipBlanks flags rest))
      | rest =>
          match readSimple? flags rest with
          | none => none
          | some (pattern, rest) =>
              readBranches? fuel flags names (.piece ⟨pattern, 0⟩ :: items) branches rest

def greatestNesting : Nat := 250

def ofText? (text : List Char) : Option Pattern :=
  match readBranches? (text.length + 1) {} [] [] [] text with
  | some (part, _, []) =>
      if part.nesting ≤ greatestNesting && part.pattern.weight ≤ greatestWeight then
        some part.pattern
      else none
  | _ => none

end Pattern

end Verdict
