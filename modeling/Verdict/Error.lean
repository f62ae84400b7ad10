import Verdict.Address.Basic
import Verdict.Operator

/-!
# Errors

Errors are causes; `message` gives each its wording. Three causes are reported while a rule is
evaluated and may be recovered from: a value is missing, is of the wrong kind, or an evaluation is
illegal. These are the data errors. All others arise while a rule is compiled or a function is
registered.
-/

set_option autoImplicit false

namespace Verdict

inductive Fault where
  | unexpectedCharacter (character : Char)
  | unexpectedToken (token : String)
  | expectedToken (expected : String) (found : String)
  | unexpectedEnd (expected : String)
  | invalidNumber (literal : String)
  | invalidEscape (letter : Char)
  | unclosedString
  | invalidOperand (operator : String) (operand : NodeKind)
deriving DecidableEq

namespace Fault

def message : Fault → String
  | .unexpectedCharacter character => s!"Unexpected character '{character}'"
  | .unexpectedToken token => s!"Unexpected token '{token}'"
  | .expectedToken expected found => s!"Expected {expected}, found '{found}'"
  | .unexpectedEnd expected => s!"Unexpected end of input, expected {expected}"
  | .invalidNumber literal => s!"Invalid number literal: {literal}"
  | .invalidEscape letter => s!"Invalid escape sequence: \\{letter}"
  | .unclosedString => "Unclosed string literal"
  | .invalidOperand operator operand =>
      s!"Operator '{operator}' cannot take a {operand.name} operand"

end Fault

structure ParseError where
  fault : Fault
  position : Nat
deriving DecidableEq

namespace ParseError

def message (error : ParseError) : String := error.fault.message

end ParseError

inductive Illegality where
  | unresolvable (node : NodeKind) (wanted : JsonKind)
  | malformedAddress (text : String) (defect : AddressDefect)
  | zeroDenominator
  | substringBounds (start : Number) (stop : Number) (length : Nat)
  | emptyPattern
  | malformedPattern (pattern : String)
  | other (message : String)

def malformedAddressMessage (text : String) (defect : AddressDefect) : String :=
  s!"Invalid address '{text}': {defect.message}"

namespace Illegality

def message : Illegality → String
  | .unresolvable node wanted => s!"{node.name} cannot be resolved as {wanted.text}"
  | .malformedAddress text defect => malformedAddressMessage text defect
  | .zeroDenominator => "Denominator is zero"
  | .substringBounds start stop length =>
      s!"Invalid substring bounds [{start.display}, {stop.display}) for length {length}"
  | .emptyPattern => "Regex cannot be empty"
  | .malformedPattern pattern => s!"Invalid regex '{pattern}'"
  | .other message => message

end Illegality

inductive Failure where
  | missing (address : String)
  | mismatch (address : String) (expected : JsonKind) (actual : JsonKind)
  | illegal (cause : Illegality)

inductive DeclarationDefect where
  | malformedName
  | noOverload
  | nativeParameter (type : String)
  | sharedArray
  | severalVariadic
  | mixedVariadic
deriving DecidableEq

namespace DeclarationDefect

def message : DeclarationDefect → String
  | .malformedName => "name must be a dotted identifier"
  | .noOverload => "at least one overload is required"
  | .nativeParameter type =>
      s!"parameter of native type '{type}'; only value parameters are allowed"
  | .sharedArray => "a value-array parameter must be the only parameter"
  | .severalVariadic => "more than one variadic overload"
  | .mixedVariadic => "a variadic overload cannot be combined with other overloads"

end DeclarationDefect

inductive ConfigurationDefect where
  | malformed
  | unknownStrategy (name : String)
deriving DecidableEq

namespace ConfigurationDefect

def message : ConfigurationDefect → String
  | .malformed => "malformed configuration"
  | .unknownStrategy name => s!"unknown error strategy '{name}'"

end ConfigurationDefect

inductive OperandCount where
  | atLeastOne
  | exactlyTwo
deriving DecidableEq

namespace OperandCount

def text : OperandCount → String
  | .atLeastOne => "at least 1"
  | .exactlyTwo => "exactly 2"

end OperandCount

inductive Error where
  | missingValue (address : String)
  | typeMismatch (address : String) (expected : JsonKind) (actual : JsonKind)
  | illegalEvaluation (cause : Illegality)
  | unknownFunction (name : String)
  | noMatchingOverload (name : String) (count : Nat)
  | ambiguousOverload (name : String) (count : Nat)
  | duplicateFunction (name : String)
  | invalidDeclaration (name : String) (defect : DeclarationDefect)
  | invalidArity (node : String) (expected : OperandCount) (actual : Nat)
  | invalidAddress (text : String) (defect : AddressDefect)
  | parse (error : ParseError)
  | configuration (defect : ConfigurationDefect)
deriving Inhabited

namespace Error

def message : Error → String
  | .missingValue address => s!"Missing value at path: {address}"
  | .typeMismatch address expected actual =>
      s!"Type mismatch at path {address}. Expected: {expected.text} Actual: {actual.text}"
  | .illegalEvaluation cause => s!"Error during evaluation: {cause.message}"
  | .unknownFunction name => s!"Unknown function '{name}'"
  | .noMatchingOverload name count =>
      s!"No matching function named {name} that accepts {count} params"
  | .ambiguousOverload name count =>
      s!"Function {name} has more than one overload accepting {count} params"
  | .duplicateFunction name => s!"Function '{name}' is already registered"
  | .invalidDeclaration name defect =>
      s!"Invalid declaration for function '{name}': {defect.message}"
  | .invalidArity node expected actual => s!"{node} expects {expected.text} operands, got {actual}"
  | .invalidAddress text defect => malformedAddressMessage text defect
  | .parse error => s!"Parse error at position {error.position}: {error.message}"
  | .configuration defect => s!"Configuration error: {defect.message}"

/-- Whether an error stems from data met during evaluation; every other error stems from the rule or
from a registration. -/
def isData : Error → Bool
  | .missingValue _ => true
  | .typeMismatch _ _ _ => true
  | .illegalEvaluation _ => true
  | _ => false

end Error

namespace Failure

def toError : Failure → Error
  | .missing address => .missingValue address
  | .mismatch address expected actual => .typeMismatch address expected actual
  | .illegal cause => .illegalEvaluation cause

end Failure

end Verdict
