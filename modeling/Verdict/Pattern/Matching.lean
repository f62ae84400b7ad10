import Verdict.Pattern.Basic

/-!
# Matching

A set of positions of a text is held as a number, one bit for each position. A pattern is first
placed on the text, where every class and condition becomes the set of positions at which it holds.
Then `PlacedPattern.advance` takes the positions where spans begin to those where they end, all at
once, so that matching takes a time bounded by the sizes of the pattern and of the text however the
pattern is nested.
-/

set_option autoImplicit false

namespace Verdict

def positionsBefore (holds : Char → Bool) : List Char → Nat
  | [] => 0
  | character :: characters => (holds character).toNat + 2 * positionsBefore holds characters

def positionsBetween (holds : Option Char → Option Char → Bool) (before : Option Char) :
    List Char → Nat
  | [] => (holds before none).toNat
  | character :: characters =>
      (holds before (some character)).toNat + 2 * positionsBetween holds (some character) characters

def allPositions (text : List Char) : Nat := Nat.pow 2 (text.length + 1) - 1

inductive PlacedPattern where
  | empty
  | one (starts : Nat)
  | look (places : Nat)
  | sequence (first second : PlacedPattern)
  | choice (left right : PlacedPattern)
  /-- So many copies, and up to so many further ones. -/
  | repetition (inner : PlacedPattern) (copies further : Nat)

namespace PlacedPattern

/-- Takes a step a number of times; a step that changes nothing is the last. -/
def exactly (step : Nat → Nat) : Nat → Nat → Nat
  | 0, positions => positions
  | count + 1, positions =>
      let next := step positions
      if next = positions then positions else exactly step count next

/-- Takes a step up to a number of times and collects all positions on the way. -/
def atMost (step : Nat → Nat) : Nat → Nat → Nat
  | 0, positions => positions
  | count + 1, positions =>
      let next := positions ||| step positions
      if next = positions then positions else atMost step count next

/-- The positions where the spans of a pattern end that begin at one of the given positions. -/
def advance : PlacedPattern → Nat → Nat
  | .empty, positions => positions
  | .one starts, positions => (positions &&& starts) <<< 1
  | .look places, positions => positions &&& places
  | .sequence first second, positions => second.advance (first.advance positions)
  | .choice left right, positions => left.advance positions ||| right.advance positions
  | .repetition inner copies further, positions =>
      atMost inner.advance further (exactly inner.advance copies positions)

end PlacedPattern

namespace Pattern

/-- Places a pattern on a text. Where copies have no bound, more of them than there are characters
lead nowhere else. -/
def place (text : List Char) : Pattern → PlacedPattern
  | .empty => .empty
  | .one members => .one (positionsBefore members.contains text)
  | .look condition => .look (positionsBetween condition.holds none text)
  | .sequence first second => .sequence (first.place text) (second.place text)
  | .choice left right => .choice (left.place text) (right.place text)
  | .repetition inner least most =>
      .repetition (inner.place text) least (most.elim text.length (· - least))

def occursIn (pattern : Pattern) (text : List Char) : Bool :=
  (pattern.place text).advance (allPositions text) != 0

end Pattern

end Verdict
