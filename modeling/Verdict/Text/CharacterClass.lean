import Verdict.Text.CaseFolding
import Verdict.Text.RangeTable

/-!
# Character classes

A set of characters in the form in which it is described: ranges and tables, the operations of sets,
and closure under a change of case.
-/

set_option autoImplicit false

namespace Verdict

namespace Text

inductive CharacterClass where
  | nothing
  | range (first last : Char)
  | table (members : RangeTable)
  | union (left right : CharacterClass)
  | intersection (left right : CharacterClass)
  | difference (left right : CharacterClass)
  | symmetricDifference (left right : CharacterClass)
  | complement (inner : CharacterClass)
  /-- The characters that differ from a member in case alone. -/
  | folded (inner : CharacterClass)
  /-- As `folded`, for the Latin letters of ASCII alone. -/
  | asciiFolded (inner : CharacterClass)

def otherAsciiCase (character : Char) : Char :=
  if character.isUpper then character.toLower else character.toUpper

namespace CharacterClass

def contains : CharacterClass → Char → Bool
  | .nothing, _ => false
  | .range first last, character => decide (first ≤ character) && decide (character ≤ last)
  | .table members, character => members.contains character
  | .union left right, character => left.contains character || right.contains character
  | .intersection left right, character => left.contains character && right.contains character
  | .difference left right, character => left.contains character && !right.contains character
  | .symmetricDifference left right, character =>
      left.contains character != right.contains character
  | .complement inner, character => !inner.contains character
  | .folded inner, character => (caseVariants character).any inner.contains
  | .asciiFolded inner, character =>
      inner.contains character || inner.contains (otherAsciiCase character)

def single (character : Char) : CharacterClass := .range character character

def unionOf : List CharacterClass → CharacterClass
  | [] => .nothing
  | [only] => only
  | first :: others => .union first (unionOf others)

/-- The number of ranges that a class is made of, at most. -/
def rangeCount : CharacterClass → Nat
  | .nothing => 0
  | .range _ _ => 1
  | .table members => members.ranges.size
  | .union left right => left.rangeCount + right.rangeCount
  | .intersection left right => max left.rangeCount right.rangeCount
  | .difference left right => max left.rangeCount right.rangeCount
  | .symmetricDifference left right => left.rangeCount + right.rangeCount
  | .complement inner => inner.rangeCount + 1
  | .folded inner => 2 * inner.rangeCount
  | .asciiFolded inner => 2 * inner.rangeCount

end CharacterClass

end Text

end Verdict
