import Verdict.Pattern.Basic

/-!
# Weight

What bounds the patterns that the built-in engine accepts: an estimate of the bytes that an
automaton would take, in which every copy of a repetition is written out. The estimate is this
engine's own, and so is the bound that it is held to.
-/

set_option autoImplicit false

namespace Verdict

namespace Text

namespace CharacterClass

def isWithinAscii : CharacterClass → Bool
  | .nothing => true
  | .range _ last => last.toNat < 0x80
  | .table members => members.ranges.all fun range => range.2 < 0x80
  | .union left right => left.isWithinAscii && right.isWithinAscii
  | .intersection left right => left.isWithinAscii || right.isWithinAscii
  | .difference left _ => left.isWithinAscii
  | .symmetricDifference left right => left.isWithinAscii && right.isWithinAscii
  | .complement _ => false
  | .folded inner => inner.isWithinAscii
  | .asciiFolded inner => inner.isWithinAscii

/-- One state for each byte of a single character, one state with a list of ranges within ASCII, and
otherwise a list of ranges that share most of their states. -/
def weight (members : CharacterClass) : Nat :=
  match members with
  | .range first last =>
      if first = last then 32 * first.utf8Size
      else if members.isWithinAscii then 72 else 128
  | _ => if members.isWithinAscii then 64 + 8 * members.rangeCount else 64 + 20 * members.rangeCount

end CharacterClass

end Text

namespace Pattern

def isHollow : Pattern → Bool
  | .empty => true
  | .one _ => false
  | .look _ => true
  | .sequence first second => first.isHollow && second.isHollow
  | .choice left right => left.isHollow && right.isHollow
  | .repetition inner _ most => inner.isHollow || most == some 0

/-- Further copies of a pattern with empty spans alone have no weight. -/
def weight : Pattern → Nat
  | .empty => 32
  | .one members => members.weight
  | .look _ => 32
  | .sequence first second => first.weight + second.weight
  | .choice left right => left.weight + right.weight + 40
  | .repetition inner least most =>
      if inner.isHollow then inner.weight + 40
      else
        match most with
        | none => max least 1 * inner.weight + 40
        | some most => least * inner.weight + (most - least) * (inner.weight + 40)

def greatestWeight : Nat := 10 * 0x100000

end Pattern

end Verdict
