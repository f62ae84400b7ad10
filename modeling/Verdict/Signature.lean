/-!
# Signatures

A signature is the shape of one overload of a function. The shape with a value array alone takes any
number of arguments, every other shape exactly as many as it has parameters.
-/

set_option autoImplicit false

namespace Verdict

inductive Parameter where
  | value
  | valueArray
  | native (type : String)
deriving DecidableEq

namespace Parameter

def text : Parameter → String
  | .value => "value"
  | .valueArray => "value..."
  | .native type => type

end Parameter

structure Signature where
  parameters : List Parameter
deriving DecidableEq

namespace Signature

def fixed (arity : Nat) : Signature := ⟨List.replicate arity .value⟩

def variadic : Signature := ⟨[.valueArray]⟩

def arity (signature : Signature) : Nat := signature.parameters.length

def isVariadic (signature : Signature) : Bool := signature.parameters == [.valueArray]

def accepts (signature : Signature) (count : Nat) : Bool :=
  signature.isVariadic || signature.arity == count

def text (signature : Signature) : String :=
  "(" ++ ", ".intercalate (signature.parameters.map Parameter.text) ++ ")"

end Signature

end Verdict
