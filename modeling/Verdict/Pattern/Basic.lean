import Verdict.Text.Property

/-!
# Patterns

A pattern describes spans of a text. Beside classes of characters it has conditions on the position
between two characters: the ends of the text or of a line, and the edges of words. Whether a
repetition prefers few or many copies is no part of a pattern, since only the spans count.
-/

set_option autoImplicit false

namespace Verdict

inductive WordEdge where
  | boundary
  | within
  | start
  | stop
  /-- The left side belongs to no word. -/
  | startHalf
  /-- The right side belongs to no word. -/
  | stopHalf
deriving DecidableEq

inductive Look where
  | textStart
  | textStop
  | lineStart
  | lineStop
  /-- As `lineStart`, where a carriage return ends a line too, unless a line feed follows. -/
  | breakStart
  | breakStop
  /-- The edge of a word; in the narrow sense words are made of ASCII. -/
  | word (edge : WordEdge) (narrow : Bool)
deriving DecidableEq

inductive Pattern where
  | empty
  | one (members : Text.CharacterClass)
  | look (condition : Look)
  | sequence (first second : Pattern)
  | choice (left right : Pattern)
  /-- At least so many copies and, if there is a bound, at most so many. -/
  | repetition (inner : Pattern) (least : Nat) (most : Option Nat)

namespace Text

def wordCharacters : CharacterClass :=
  .unionOf [Property.alphabetic, Category.mark, .table Category.decimalNumber,
    .table Category.connectorPunctuation, .table Property.joinControl]

def narrowWordCharacters : CharacterClass :=
  .unionOf [.range 'a' 'z', .range 'A' 'Z', .range '0' '9', .single '_']

end Text

namespace WordEdge

def holds : WordEdge → Bool → Bool → Bool
  | .boundary, before, after => before != after
  | .within, before, after => before == after
  | .start, before, after => !before && after
  | .stop, before, after => before && !after
  | .startHalf, before, _ => !before
  | .stopHalf, _, after => !after

end WordEdge

namespace Look

/-- Whether a condition holds between two characters; a side without a character is an end of the
text. -/
def holds (look : Look) (before after : Option Char) : Bool :=
  match look with
  | .textStart => before.isNone
  | .textStop => after.isNone
  | .lineStart => before.isNone || before == some '\n'
  | .lineStop => after.isNone || after == some '\n'
  | .breakStart =>
      before.isNone || before == some '\n' || (before == some '\r' && after != some '\n')
  | .breakStop => after.isNone || after == some '\r' || (after == some '\n' && before != some '\r')
  | .word edge narrow =>
      let members := if narrow then Text.narrowWordCharacters else Text.wordCharacters
      edge.holds (before.any members.contains) (after.any members.contains)

end Look

namespace Pattern

def sequenceOf : List Pattern → Pattern
  | [] => .empty
  | [only] => only
  | first :: others => .sequence first (sequenceOf others)

def choiceOf : Pattern → List Pattern → Pattern
  | first, [] => first
  | first, second :: others => .choice first (choiceOf second others)

end Pattern

end Verdict
