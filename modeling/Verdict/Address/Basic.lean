import Verdict.Address.Path
import Verdict.Address.Pointer

/-!
# Addresses

An address is a path or a pointer. No text spells both, since a path starts with a dollar sign and a
pointer with a slash unless it is empty; so an address is determined by its text.
-/

set_option autoImplicit false

namespace Verdict

inductive Address where
  | path (address : Path)
  | pointer (address : Pointer)

inductive Dialect where
  | path
  | pointer
deriving DecidableEq

inductive AddressDefect where
  | path (defect : PathDefect)
  | pointer (defect : PointerDefect)
deriving DecidableEq

namespace AddressDefect

def message : AddressDefect → String
  | .path defect => defect.message
  | .pointer defect => defect.message

end AddressDefect

namespace Address

def text : Address → String
  | .path address => address.text
  | .pointer address => address.text

/-- Equality of addresses: of one dialect and of one text. -/
def same : Address → Address → Bool
  | .path left, .path right => left.text == right.text
  | .pointer left, .pointer right => left.text == right.text
  | _, _ => false

def locate : Address → Json → Option Json
  | .path address, document => address.locate document
  | .pointer address, document => address.locate document

end Address

namespace Dialect

def compile : Dialect → String → Except AddressDefect Address
  | .path, text =>
      match Path.compile text with
      | .ok address => .ok (.path address)
      | .error defect => .error (.path defect)
  | .pointer, text =>
      match Pointer.compile text with
      | .ok address => .ok (.pointer address)
      | .error defect => .error (.pointer defect)

end Dialect

end Verdict
