import Verdict.Error

/-!
# Strategies

A strategy judges every failure that an evaluation reports: it raises an error or lets the
evaluation recover. It may look at the failures reported before, but at nothing else.
-/

set_option autoImplicit false

namespace Verdict

structure Strategy where
  /-- The error to raise on a failure, given the failures reported before it; none to recover. -/
  judge : List Failure → Failure → Option Error

inductive FailureKind where
  | missing
  | mismatch
  | illegal
deriving DecidableEq

namespace Failure

def kind : Failure → FailureKind
  | .missing _ => .missing
  | .mismatch _ _ _ => .mismatch
  | .illegal _ => .illegal

end Failure

namespace Strategy

def memoryless (judge : Failure → Option Error) : Strategy := ⟨fun _ failure => judge failure⟩

def raising (kinds : List FailureKind) : Strategy :=
  memoryless fun failure => if failure.kind ∈ kinds then some failure.toError else none

def strict : Strategy := memoryless fun failure => some failure.toError

/-- Recovers from every failure, so that the default takes its place. -/
def injectDefault : Strategy := memoryless fun _ => none

end Strategy

inductive StrategyKind where
  | strict
  | injectDefault
deriving DecidableEq

namespace StrategyKind

def name : StrategyKind → String
  | .strict => "strict"
  | .injectDefault => "inject_default"

def strategy : StrategyKind → Strategy
  | .strict => .strict
  | .injectDefault => .injectDefault

/-- A name in lower case with underscores for hyphens; other letters than the Latin ones of ASCII
stay. -/
def normalizeName (name : String) : String :=
  String.ofList (name.toList.map fun character =>
    let lower := character.toLower
    if lower = '-' then '_' else lower)

/-- Reads a name in any case, with hyphens or underscores, or in its short form. -/
def ofName (name : String) : Except Error StrategyKind :=
  let normalized := normalizeName name
  if normalized = "strict" then .ok .strict
  else if normalized = "inject_default" || normalized = "inject" then .ok .injectDefault
  else .error (.configuration (.unknownStrategy normalized))

end StrategyKind

end Verdict
