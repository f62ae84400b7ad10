import Verdict.Json.Printer
import Verdict.Json.Reader
import Verdict.Strategy

/-!
# Configurations

A configuration is written as a JSON object. Every field may be left out, and fields of other names
are passed over, but no field may be given twice. A list of the first fields in order is read as
well. What does not fit is refused as a whole.
-/

set_option autoImplicit false

namespace Verdict

structure Configuration where
  errorStrategy : StrategyKind := .strict
  cacheRules : Bool := true
  /-- How many rules are kept before all of them are dropped. -/
  cacheLimit : Nat := 1024
deriving DecidableEq

namespace Configuration

def strategyNamed? (name : String) : Option StrategyKind :=
  if name = StrategyKind.strict.name then some .strict
  else if name = StrategyKind.injectDefault.name then some .injectDefault
  else none

/-- Reads a strategy: its name, or an object with its name as the only key and null. -/
def readStrategy? : Json → Option StrategyKind
  | .string name => strategyNamed? name
  | .object [(name, .null)] => strategyNamed? name
  | _ => none

def readFlag? : Json → Option Bool
  | .boolean flag => some flag
  | _ => none

def readLimit? : Json → Option Nat
  | .number (.whole (.ofNat limit)) => if limit < 0x10000000000000000 then some limit else none
  | _ => none

def fieldNames : List String := ["error_strategy", "cache_compiled_rules", "max_cached_rules"]

/-- Sets a field by its name; other names are passed over. -/
def setField? (configuration : Configuration) (name : String) (value : Json) :
    Option Configuration :=
  if name = "error_strategy" then
    (readStrategy? value).map fun kind => { configuration with errorStrategy := kind }
  else if name = "cache_compiled_rules" then
    (readFlag? value).map fun flag => { configuration with cacheRules := flag }
  else if name = "max_cached_rules" then
    (readLimit? value).map fun limit => { configuration with cacheLimit := limit }
  else some configuration

/-- Sets fields one after another, none of them twice. -/
def setFields? (configuration : Configuration) (given : List String) :
    List (String × Json) → Option Configuration
  | [] => some configuration
  | (name, value) :: fields =>
      if name ∈ given then none
      else
        (configuration.setField? name value).bind fun configuration =>
          setFields? configuration (if name ∈ fieldNames then name :: given else given) fields

def ofJson? : Json → Option Configuration
  | .object fields => setFields? {} [] fields
  | .array items =>
      if items.length ≤ fieldNames.length then setFields? {} [] (fieldNames.zip items) else none
  | _ => none

def ofText (text : String) : Except Error Configuration :=
  match (Json.read? text).bind ofJson? with
  | some configuration => .ok configuration
  | none => .error (.configuration .malformed)

def toJson (configuration : Configuration) : Json :=
  .object
    [("error_strategy", .string configuration.errorStrategy.name),
      ("cache_compiled_rules", .boolean configuration.cacheRules),
      ("max_cached_rules", .number (.whole configuration.cacheLimit))]

def text (configuration : Configuration) : String := configuration.toJson.compact

end Configuration

end Verdict
