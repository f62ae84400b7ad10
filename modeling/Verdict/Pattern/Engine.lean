import Verdict.Pattern.Matching
import Verdict.Pattern.Reader

/-!
# Engines

An engine compiles the texts of patterns. Which texts are patterns, what they mean and how large
they may grow is for the engine to say, so the functions that compare texts with patterns take it as
a parameter.

The built-in engine is one that can be run. It reads the syntax of `Pattern.ofText?`, knows
properties of characters by general category and by script alone, and bounds patterns by an estimate
of its own, so other engines accept patterns that it refuses.
-/

set_option autoImplicit false

namespace Verdict

namespace Pattern

structure Engine where
  /-- What tells of a text whether it has a match anywhere, unless the pattern is refused. -/
  compile? : String → Option (String → Bool)

namespace Engine

def builtIn : Engine :=
  ⟨fun text => (ofText? text.toList).map fun pattern subject => pattern.occursIn subject.toList⟩

end Engine

end Pattern

end Verdict
