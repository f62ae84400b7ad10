import Verdict.Library.Standard
import Verdict.Registry.Basic

/-!
# Discovery

Discovery loads the standard library and further libraries in one batch. It happens at most once:
when it has succeeded, asking again changes nothing, and when it has failed nothing was loaded and
it may be tried again.
-/

set_option autoImplicit false

namespace Verdict

namespace Registry

/-- Loads the standard library and the given ones, unless that has happened before. -/
def discover (registry : Registry) (libraries : List FunctionLibrary) : Except Error Registry :=
  match registry.discovered with
  | some _ => .ok registry
  | none =>
      let all := Library.standard :: libraries
      (registry.registerAll (all.flatMap FunctionLibrary.functions)).map fun loaded =>
        { loaded with discovered := some (all.map FunctionLibrary.name) }

def ofLibrary (library : FunctionLibrary) : Registry := ⟨library.functions, some [library.name]⟩

def standard : Registry := ofLibrary Library.standard

end Registry

end Verdict
