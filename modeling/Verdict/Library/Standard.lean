import Verdict.Library.Arithmetic
import Verdict.Library.Arrays
import Verdict.Library.Clock
import Verdict.Library.Existence
import Verdict.Library.Hashes
import Verdict.Library.Strings

/-!
# The standard library
-/

set_option autoImplicit false

namespace Verdict

namespace Library

def standardOn (engine : Pattern.Engine) : FunctionLibrary :=
  ⟨"hope.stdlib", arithmetic ++ strings engine ++ arrays ++ existences ++ clock ++ hashes⟩

/-- The functions that discovery always loads. -/
def standard : FunctionLibrary := standardOn .builtIn

end Library

end Verdict
