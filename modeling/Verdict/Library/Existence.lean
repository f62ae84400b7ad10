import Verdict.Library.Shape

/-!
# Existence functions

Whether something other than null lives at an address. The argument stands for the text of the
address: a place of the same dialect is not followed, anything else is resolved as a string. The
empty text names no place, also where it would spell the whole document.
-/

set_option autoImplicit false

namespace Verdict

namespace Library

def isPresent (address : Address) : Script Bool :=
  (Script.lookUp address).bind fun found => .done (present? found).isSome

def isPresentAt (dialect : Dialect) (text : String) : Script Bool :=
  if text.isEmpty then .done false
  else
    match dialect.compile text with
    | .ok address => isPresent address
    | .error defect => .report (.illegal (.malformedAddress text defect)) (.done false)

def existence (name : String) (dialect : Dialect) : Function :=
  ⟨name, [.unary name fun address =>
    (address.addressText dialect "").bind fun text =>
      (isPresentAt dialect text).bind fun answer => .done (.boolean answer)]⟩

def pathExists : Function := existence "path.exists" .path

def pointerExists : Function := existence "pointer.exists" .pointer

def existences : List Function := [pathExists, pointerExists]

end Library

end Verdict
