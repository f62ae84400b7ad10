import Verdict.Text.Pieces
import Verdict.Value.Basic

/-!
# Functions

A function has a name and overloads, each with a shape and an implementation. `Function.defect?`
says what keeps a function from being registered. A function without defect has either one variadic
overload alone or overloads of value parameters only, no two of one arity, so that at most one of
them fits any number of arguments.
-/

set_option autoImplicit false

namespace Verdict

structure Overload where
  signature : Signature
  /-- Values that the implementation may answer with. -/
  attached : List Value
  implementation : Implementation

structure Function where
  name : String
  overloads : List Overload

structure FunctionLibrary where
  name : String
  functions : List Function

namespace Overload

def fixed (arity : Nat) (implementation : Implementation) : Overload :=
  ⟨.fixed arity, [], implementation⟩

def variadic (implementation : Implementation) : Overload := ⟨.variadic, [], implementation⟩

end Overload

def beginsName (character : Char) : Bool := character.isAlpha || character = '_'

def continuesName (character : Char) : Bool := character.isAlphanum || character = '_'

/-- Whether a text is a dotted identifier in ASCII. -/
def isFunctionName (name : String) : Bool :=
  (Text.pieces '.' name.toList).all fun part =>
    match part with
    | [] => false
    | first :: others => beginsName first && others.all continuesName

namespace Signature

def nativeParameter? (signature : Signature) : Option String :=
  signature.parameters.findSome? fun parameter =>
    match parameter with
    | .native type => some type
    | _ => none

/-- What keeps a shape by itself from being registered. -/
def defect? (signature : Signature) : Option DeclarationDefect :=
  match signature.nativeParameter? with
  | some type => some (.nativeParameter type)
  | none =>
      if signature.parameters.contains .valueArray && !signature.isVariadic then some .sharedArray
      else none

end Signature

def firstRepeated? (seen : List Nat) : List Nat → Option Nat
  | [] => none
  | member :: members =>
      if member ∈ seen then some member else firstRepeated? (member :: seen) members

namespace Function

/-- The error that keeps a function from being registered, the first that applies. -/
def defect? (function : Function) : Option Error :=
  let invalid (defect : DeclarationDefect) : Option Error :=
    some (.invalidDeclaration function.name defect)
  let signatures := function.overloads.map Overload.signature
  let variadicCount := signatures.countP Signature.isVariadic
  if !isFunctionName function.name then invalid .malformedName
  else if signatures.isEmpty then invalid .noOverload
  else
    match signatures.findSome? Signature.defect? with
    | some defect => invalid defect
    | none =>
        if 1 < variadicCount then invalid .severalVariadic
        else if variadicCount = 1 && 1 < signatures.length then invalid .mixedVariadic
        else (firstRepeated? [] (signatures.map Signature.arity)).map fun arity =>
          .ambiguousOverload function.name arity

def resolve (function : Function) (count : Nat) : Except Error Overload :=
  match function.overloads.find? fun overload => overload.signature.isVariadic with
  | some overload => .ok overload
  | none =>
      match function.overloads.filter fun overload => overload.signature.arity == count with
      | [] => .error (.noMatchingOverload function.name count)
      | [overload] => .ok overload
      | _ => .error (.ambiguousOverload function.name count)

end Function

end Verdict
