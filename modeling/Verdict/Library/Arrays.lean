import Verdict.Library.Shape

/-!
# Array functions

Lengths count the items without resolving them. Membership resolves every item as a datum, and it is
the membership of a hashed collection: members are told apart by fingerprint and by equality. Null
is never found, and an array that cannot be resolved counts as empty.

The fingerprint is all that a datum feeds to a hash function. A hash function may take different
fingerprints to one hash, and then a collection could find a member that is equal and has another
fingerprint. That case is left open by hashed collections; here such a member is never found.
-/

set_option autoImplicit false

namespace Verdict

namespace Library

/-- Whether a hashed collection of data holds a datum, where different fingerprints never meet in
one hash. -/
def holds (members : List Datum) (wanted : Datum) : Bool :=
  members.any fun member => member.fingerprint == wanted.fingerprint && member.same wanted

def itemCount (array : Operand) : Script Nat :=
  array.items.bind fun items => .done (items.getD []).length

def isMember (needle array : Operand) : Script Bool :=
  (needle.datumOr .null).bind fun wanted => (array.flatten []).bind fun members =>
    .done (!wanted.isNull && holds members wanted)

def onArrays (name : String) (answer : List Datum → List Datum → Bool) : Function :=
  ⟨name, [.binary name fun left right =>
    (left.flatten []).bind fun members => (right.flatten []).bind fun items =>
      .done (.boolean (answer members items))]⟩

def arrayLength : Function :=
  ⟨"arr.len", [.unary "arr.len" fun array =>
    (itemCount array).bind fun count => .done (.number (.ofNat count))]⟩

def arrayIsEmpty : Function :=
  ⟨"arr.is_empty", [.unary "arr.is_empty" fun array =>
    (itemCount array).bind fun count => .done (.boolean (count == 0))]⟩

def inArray : Function :=
  ⟨"arr.in", [.binary "arr.in" fun needle array =>
    (isMember needle array).bind fun answer => .done (.boolean answer)]⟩

def notInArray : Function :=
  ⟨"arr.not_in", [.binary "arr.not_in" fun needle array =>
    (isMember needle array).bind fun answer => .done (.boolean !answer)]⟩

/-- Whether some item of the second array is in the first. -/
def containsAny : Function :=
  onArrays "arr.contains_any" fun members items => items.any (holds members)

/-- Whether every item of the second array is in the first. -/
def containsAll : Function :=
  onArrays "arr.contains_all" fun members items => items.all (holds members)

def arrays : List Function :=
  [arrayLength, arrayIsEmpty, inArray, notInArray, containsAny, containsAll]

end Library

end Verdict
