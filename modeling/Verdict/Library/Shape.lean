import Verdict.Function
import Verdict.Value.Resolution

/-!
# Overloads by shape

The shapes of overload from which functions are declared. A body sees exactly the operands that its
shape promises; another number of operands has no overload. The last part holds overloads that need
no body of their own: constants, projections, counts and failures.
-/

set_option autoImplicit false

namespace Verdict

namespace Overload

def nullary (name : String) (body : Script Reply) : Overload :=
  .fixed 0 fun operands =>
    match operands with
    | [] => body
    | _ => .fail (.noMatchingOverload name operands.length)

def unary (name : String) (body : Operand → Script Reply) : Overload :=
  .fixed 1 fun operands =>
    match operands with
    | [operand] => body operand
    | _ => .fail (.noMatchingOverload name operands.length)

def binary (name : String) (body : Operand → Operand → Script Reply) : Overload :=
  .fixed 2 fun operands =>
    match operands with
    | [first, second] => body first second
    | _ => .fail (.noMatchingOverload name operands.length)

def ternary (name : String) (body : Operand → Operand → Operand → Script Reply) : Overload :=
  .fixed 3 fun operands =>
    match operands with
    | [first, second, third] => body first second third
    | _ => .fail (.noMatchingOverload name operands.length)

def constant (signature : Signature) (value : Value) : Overload :=
  ⟨signature, [value], fun _ => .done (.attached 0)⟩

/-- Answers one of the arguments as it is; a call without it fails. -/
def argument (signature : Signature) (index : Nat) : Overload :=
  ⟨signature, [], fun _ => .done (.argument index)⟩

def count (signature : Signature) : Overload :=
  ⟨signature, [], fun operands => .done (.number (.ofNat operands.length))⟩

/-- Answers the path below the root that the first argument spells without its dollar sign and dot;
a text that spells no path is an error which no strategy recovers from. -/
def pathBelowRoot (signature : Signature) : Overload :=
  ⟨signature, [], fun operands =>
    match operands with
    | [] => .fail (noArgument 0)
    | operand :: _ => (operand.stringOr "").bind fun text =>
        let path := "$." ++ text
        match Dialect.path.compile path with
        | .ok address => .done (.address address)
        | .error defect => .fail (.invalidAddress path defect)⟩

/-- Reports an illegal evaluation; a value takes its place if it is recovered from. -/
def raising (signature : Signature) (message : String) (default : Value) : Overload :=
  ⟨signature, [default], fun _ => .report (.illegal (.other message)) (.done (.attached 0))⟩

def exactly (signature : Signature) (name : String) (expected : Nat) : Overload :=
  ⟨signature, [], fun operands =>
    if operands.length = expected then .done (.number (.ofNat expected))
    else .fail (.noMatchingOverload name operands.length)⟩

/-- Fails with an illegal evaluation which no strategy recovers from. -/
def failing (signature : Signature) (message : String) : Overload :=
  ⟨signature, [], fun _ => .fail (.illegalEvaluation (.other message))⟩

end Overload

end Verdict
