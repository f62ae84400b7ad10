import Verdict.Pattern.Escape

/-!
# Bracketed classes

A class in brackets joins characters, ranges, named classes and further brackets, and combines such
unions by the operations of sets from left to right. Case is ignored before a class is negated, and
on both sides of an operation. Without the Unicode flag a class must stay within ASCII, so that no
negation is accepted.
-/

set_option autoImplicit false

namespace Verdict

namespace Pattern

open Text (CharacterClass)

/-- What has been read of a class, and how deep its parts are nested. -/
structure ClassPart where
  members : CharacterClass
  nesting : Nat

def foldClass (flags : Flags) (members : CharacterClass) : CharacterClass :=
  if flags.ignoreCase then if flags.unicode then .folded members else .asciiFolded members
  else members

def negateClass? (flags : Flags) (negated : Bool) (members : CharacterClass) :
    Option CharacterClass :=
  if !negated then some members
  else if flags.unicode then some (.complement members)
  else none

/-- The class of a shorthand, which ignores case by itself. -/
def shorthandClass? (flags : Flags) (kind : Shorthand) (negated : Bool) : Option CharacterClass :=
  negateClass? flags negated (if flags.unicode then kind.members else kind.narrowMembers)

def propertyClass? (flags : Flags) (query : PropertyQuery) (negated : Bool) :
    Option CharacterClass :=
  if flags.unicode then
    query.members?.bind fun members => negateClass? flags negated (foldClass flags members)
  else none

def literalOf? (flags : Flags) : Escape → Option Char
  | .literal character _ =>
      if flags.unicode || character.toNat < 0x80 then some character else none
  | _ => none

/-- The class that an escape adds to a bracket; positions are refused. -/
def escapeClass? (flags : Flags) : Escape → Option CharacterClass
  | .shorthand kind negated => shorthandClass? flags kind negated
  | .property query negated => propertyClass? flags query negated
  | escape => (literalOf? flags escape).map .single

def readClassItem? (flags : Flags) : List Char → Option (Escape × List Char)
  | [] => none
  | '\\' :: rest => readEscape? flags rest
  | character :: rest => some (.literal character false, rest)

/-- Reads a class item, or a range if a minus sign follows that does not stand for itself. -/
def readRange? (flags : Flags) (text : List Char) : Option (CharacterClass × List Char) := do
  let (first, rest) ← readClassItem? flags text
  match skipBlanks flags rest with
  | [] => none
  | '-' :: behind =>
      let next := peek? flags behind
      if next = some ']' || next = some '-' then
        return (← escapeClass? flags first, '-' :: behind)
      else
        let (last, rest) ← readClassItem? flags (skipBlanks flags behind)
        let first ← literalOf? flags first
        let last ← literalOf? flags last
        if first ≤ last then return (.range first last, rest) else none
  | rest => return (← escapeClass? flags first, rest)

/-- Reads a class of ASCII from behind its opening bracket, if one stands there. -/
def readAsciiClass? (text : List Char) : Option (Bool × CharacterClass × List Char) :=
  match text with
  | ':' :: rest =>
      let (negated, rest) := match rest with
        | '^' :: rest => (true, rest)
        | rest => (false, rest)
      match rest.dropWhile (· != ':') with
      | ':' :: ']' :: behind =>
          (asciiClass? (String.ofList (rest.takeWhile (· != ':')))).map fun members =>
            (negated, members, behind)
      | _ => none
  | _ => none

inductive ClassOperation where
  | intersection
  | difference
  | symmetricDifference

namespace ClassOperation

def apply : ClassOperation → CharacterClass → CharacterClass → CharacterClass
  | .intersection, left, right => .intersection left right
  | .difference, left, right => .difference left right
  | .symmetricDifference, left, right => .symmetricDifference left right

end ClassOperation

/-- What has been read of a bracket: the operation that waits for its right side, with its left
side, and the parts of the union that is being read, the latest first. -/
structure BracketState where
  waiting : Option (ClassPart × ClassOperation)
  parts : List ClassPart

namespace BracketState

def add (state : BracketState) (part : ClassPart) : BracketState :=
  { state with parts := part :: state.parts }

/-- The union that is being read. Two parts or more are one level deeper. -/
def unionPart (state : BracketState) : ClassPart :=
  match state.parts with
  | [] => ⟨.nothing, 0⟩
  | [only] => only
  | parts =>
      ⟨.unionOf (parts.reverse.map ClassPart.members),
        (parts.foldl (fun deepest part => max deepest part.nesting) 0) + 1⟩

/-- What the bracket comes to so far. An operation is one level deeper than its sides. -/
def result (flags : Flags) (state : BracketState) : ClassPart :=
  let right := state.unionPart
  match state.waiting with
  | none => right
  | some (left, operation) =>
      ⟨operation.apply (foldClass flags left.members) (foldClass flags right.members),
        max left.nesting right.nesting + 1⟩

def wait (flags : Flags) (state : BracketState) (operation : ClassOperation) : BracketState :=
  ⟨some (state.result flags, operation), []⟩

end BracketState

def readLeadingMinus (flags : Flags) :
    Nat → BracketState → List Char → BracketState × List Char
  | fuel + 1, state, '-' :: rest =>
      readLeadingMinus flags fuel (state.add ⟨.single '-', 0⟩) (skipBlanks flags rest)
  | _, state, text => (state, text)

/-- Reads what opens a bracket: its negation, and the minus signs or the closing bracket that stand
for themselves there. -/
def openBracket (flags : Flags) (text : List Char) : Bool × BracketState × List Char :=
  let text := skipBlanks flags text
  let (negated, text) := match text with
    | '^' :: rest => (true, skipBlanks flags rest)
    | text => (false, text)
  match readLeadingMinus flags text.length ⟨none, []⟩ text with
  | (⟨none, []⟩, ']' :: rest) => (negated, ⟨none, [⟨.single ']', 0⟩]⟩, skipBlanks flags rest)
  | (state, text) => (negated, state, text)

mutual

/-- Reads a bracket from behind its opening to behind its closing; `fuel` bounds the length. -/
def readBracket? (flags : Flags) : Nat → List Char → Option (ClassPart × List Char)
  | 0, _ => none
  | fuel + 1, text => do
      let (negated, state, text) := openBracket flags text
      let (inner, rest) ← readBracketParts? flags fuel state text
      let members ← negateClass? flags negated (foldClass flags inner.members)
      return (⟨members, inner.nesting + 1⟩, rest)

def readBracketParts? (flags : Flags) :
    Nat → BracketState → List Char → Option (ClassPart × List Char)
  | 0, _, _ => none
  | fuel + 1, state, text =>
      match skipBlanks flags text with
      | [] => none
      | ']' :: rest => some (state.result flags, rest)
      | '[' :: rest =>
          match readAsciiClass? rest with
          | some (negated, members, rest) => do
              let members ← negateClass? flags negated (foldClass flags members)
              readBracketParts? flags fuel (state.add ⟨members, 0⟩) rest
          | none => do
              let (inner, rest) ← readBracket? flags fuel rest
              readBracketParts? flags fuel (state.add inner) rest
      | '&' :: '&' :: rest => readBracketParts? flags fuel (state.wait flags .intersection) rest
      | '-' :: '-' :: rest => readBracketParts? flags fuel (state.wait flags .difference) rest
      | '~' :: '~' :: rest =>
          readBracketParts? flags fuel (state.wait flags .symmetricDifference) rest
      | text => do
          let (members, rest) ← readRange? flags text
          readBracketParts? flags fuel (state.add ⟨members, 0⟩) rest

end

end Pattern

end Verdict
