import Verdict.Function

/-!
# The registry

A registry holds functions under their names. Functions are added in batches: a batch in which one
function is defective or has a taken name changes nothing. A registered function is never replaced,
so a call that was bound once stays bound to the same overload.
-/

set_option autoImplicit false

namespace Verdict

structure Registry where
  functions : List Function
  /-- The names of the discovered libraries, once discovery has succeeded. -/
  discovered : Option (List String)

structure RegistryStatistics where
  functions : Nat
  overloads : Nat
  variadic : Nat
  libraries : Nat

namespace RegistryStatistics

def text (statistics : RegistryStatistics) : String :=
  s!"Registry: {statistics.functions} functions ({statistics.overloads} overloads, " ++
    s!"{statistics.variadic} variadic) from {statistics.libraries} libraries"

end RegistryStatistics

namespace Registry

def empty : Registry := ⟨[], none⟩

def find? (registry : Registry) (name : String) : Option Function :=
  registry.functions.find? fun function => function.name == name

def contains (registry : Registry) (name : String) : Bool := (registry.find? name).isSome

/-- The first error that keeps functions from being added, given the names taken so far in the same
batch. -/
def objection? (registry : Registry) (taken : List String) : List Function → Option Error
  | [] => none
  | function :: functions =>
      match function.defect? with
      | some error => some error
      | none =>
          if registry.contains function.name || function.name ∈ taken then
            some (.duplicateFunction function.name)
          else objection? registry (function.name :: taken) functions

/-- Adds functions, all or none. -/
def registerAll (registry : Registry) (functions : List Function) : Except Error Registry :=
  match registry.objection? [] functions with
  | some error => .error error
  | none => .ok { registry with functions := registry.functions ++ functions }

def register (registry : Registry) (function : Function) : Except Error Registry :=
  registry.registerAll [function]

def libraries (registry : Registry) : List String := registry.discovered.getD []

def names (registry : Registry) : List String :=
  (registry.functions.map Function.name).mergeSort fun left right => !decide (right < left)

def resolve (registry : Registry) (name : String) (count : Nat) : Except Error Overload :=
  match registry.find? name with
  | some function => function.resolve count
  | none => .error (.unknownFunction name)

def bind (registry : Registry) (name : String) (arguments : List Value) : Except Error Call :=
  match registry.resolve name arguments.length with
  | .ok overload =>
      .ok (.mk name arguments overload.signature overload.attached overload.implementation)
  | .error error => .error error

def statistics (registry : Registry) : RegistryStatistics where
  functions := registry.functions.length
  overloads := registry.functions.foldl (fun total function => total + function.overloads.length) 0
  variadic := registry.functions.countP fun function =>
    function.overloads.any fun overload => overload.signature.isVariadic
  libraries := registry.libraries.length

end Registry

end Verdict
