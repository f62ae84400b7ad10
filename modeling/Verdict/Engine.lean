import Verdict.Configuration
import Verdict.Registry.Discovery
import Verdict.Rule.Parser
import Verdict.Session

/-!
# Engines

An engine compiles rules against its registry and evaluates them against documents. It keeps
compiled rules under their text. When as many rules are kept as the configuration allows, all are
dropped before the next one is kept. Every compilation has a number of its own, so two answers are
the same compiled rule exactly if their numbers agree.
-/

set_option autoImplicit false

namespace Verdict

/-- A rule and the number of the compilation that made it. -/
structure CompiledRule where
  serial : Nat
  rule : Rule

structure Engine where
  registry : Registry
  strategy : Strategy
  clock : Reading → Number
  configuration : Configuration
  cache : List (String × CompiledRule)
  compiled : Nat

namespace Engine

/-- An engine whose registry holds the standard library, further libraries and functions. Without a
strategy of its own it takes that of the configuration. -/
def build (configuration : Configuration) (strategy : Option Strategy)
    (libraries : List FunctionLibrary) (functions : List Function) (clock : Reading → Number) :
    Except Error Engine := do
  let discovered ← Registry.empty.discover libraries
  let registry ← discovered.registerAll functions
  return {
    registry := registry
    strategy := strategy.getD configuration.errorStrategy.strategy
    clock := clock
    configuration := configuration
    cache := []
    compiled := 0 }

def compile (engine : Engine) (text : String) : Except Error (CompiledRule × Engine) :=
  match parseRule engine.registry text with
  | .error error => .error error
  | .ok rule => .ok (⟨engine.compiled, rule⟩, { engine with compiled := engine.compiled + 1 })

def keep (engine : Engine) (text : String) (rule : CompiledRule) : Engine :=
  if engine.configuration.cacheLimit ≤ engine.cache.length then
    { engine with cache := [(text, rule)] }
  else { engine with cache := (text, rule) :: engine.cache }

/-- Answers the rule that is kept under a text, or compiles the text and keeps the rule. -/
def parse (engine : Engine) (text : String) : Except Error (CompiledRule × Engine) :=
  if engine.configuration.cacheRules then
    match engine.cache.lookup text with
    | some kept => .ok (kept, engine)
    | none =>
        match engine.compile text with
        | .error error => .error error
        | .ok (rule, engine) => .ok (rule, engine.keep text rule)
  else engine.compile text

def clearCache (engine : Engine) : Engine := { engine with cache := [] }

def setting (engine : Engine) (document : Json) : Setting :=
  ⟨document, engine.strategy, engine.clock⟩

def run {α : Type} (engine : Engine) (document : Json) (script : Script α) :
    Except Error α × Session :=
  script.run (engine.setting document) .fresh

def evaluate (engine : Engine) (rule : Rule) (document : Json) : Except Error Bool :=
  rule.evaluate (engine.setting document)

/-- Parses and evaluates a rule text. What was compiled is kept also when its evaluation fails. -/
def evaluateText (engine : Engine) (text : String) (document : Json) :
    Except Error Bool × Engine :=
  match engine.parse text with
  | .error error => (.error error, engine)
  | .ok (compiled, engine) => (engine.evaluate compiled.rule document, engine)

end Engine

end Verdict
