/-!
# Tables of code points

A property of characters is held as ascending closed ranges of code points. Tables are spelled in
hexadecimal, a range as `41-5A` and a single code point as `5F`, with blanks between them.
-/

set_option autoImplicit false

namespace Verdict

namespace Text

/-- Ascending closed ranges of code points. -/
structure RangeTable where
  ranges : Array (Nat × Nat)

namespace RangeTable

/-- What has been read of the spelling of a table: the complete ranges, the first end of a range
that is being read, and the digits read last. -/
structure Spelling where
  ranges : Array (Nat × Nat)
  first : Option Nat
  digits : Option Nat

namespace Spelling

def digitValue (character : Char) : Nat :=
  if character ≤ '9' then character.toNat - '0'.toNat else character.toNat - 'A'.toNat + 10

def close (spelling : Spelling) : Spelling :=
  match spelling.digits with
  | none => spelling
  | some last => ⟨spelling.ranges.push (spelling.first.getD last, last), none, none⟩

def step (spelling : Spelling) (character : Char) : Spelling :=
  if character = ' ' || character = '\n' then spelling.close
  else if character = '-' then { spelling with first := spelling.digits, digits := none }
  else { spelling with digits := some (16 * spelling.digits.getD 0 + digitValue character) }

end Spelling

def ofText (text : String) : RangeTable :=
  ⟨((text.toList.foldl Spelling.step ⟨#[], none, none⟩).close).ranges⟩

/-- Whether a range between two indexes holds a code point. Each step halves the span, so `fuel`
suffices when it is above the binary logarithm of the span. -/
def search (ranges : Array (Nat × Nat)) (code : Nat) : Nat → Nat → Nat → Bool
  | 0, _, _ => false
  | fuel + 1, low, high =>
      if low < high then
        let middle := (low + high) / 2
        match ranges[middle]? with
        | none => false
        | some (first, last) =>
            if code < first then search ranges code fuel low middle
            else if last < code then search ranges code fuel (middle + 1) high
            else true
      else false

def containsCode (table : RangeTable) (code : Nat) : Bool :=
  search table.ranges code (table.ranges.size.log2 + 2) 0 table.ranges.size

def contains (table : RangeTable) (character : Char) : Bool := table.containsCode character.toNat

end RangeTable

end Text

end Verdict
