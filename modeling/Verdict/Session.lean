import Verdict.Rule.Evaluation
import Verdict.Strategy

/-!
# Sessions

A session runs scripts against one document. It remembers what every address text led to, absence
included, so that each text is followed once, and it keeps the failures that were reported. An error
ends the running script; the session remains usable.
-/

set_option autoImplicit false

namespace Verdict

structure Setting where
  document : Json
  strategy : Strategy
  clock : Reading → Number

structure Session where
  /-- What the address texts looked up so far led to, the latest first. -/
  found : List (String × Option Json)
  hits : Nat
  misses : Nat
  /-- The failures reported so far, the earliest first. -/
  failures : List Failure

namespace Session

def fresh : Session := ⟨[], 0, 0, []⟩

/-- Answers a look-up from memory, or walks the document and remembers the outcome. -/
def lookUp (session : Session) (document : Json) (address : Address) : Option Json × Session :=
  match session.found.lookup address.text with
  | some outcome => (outcome, { session with hits := session.hits + 1 })
  | none =>
      let outcome := address.locate document
      (outcome,
        { session with
          found := (address.text, outcome) :: session.found
          misses := session.misses + 1 })

end Session

namespace Script

def run {α : Type} (setting : Setting) : Script α → Session → Except Error α × Session
  | .done value, session => (.ok value, session)
  | .fail error, session => (.error error, session)
  | .look address next, session =>
      let (outcome, session) := session.lookUp setting.document address
      (next outcome).run setting session
  | .read reading next, session => (next (setting.clock reading)).run setting session
  | .report failure rest, session =>
      let reported := { session with failures := session.failures ++ [failure] }
      match setting.strategy.judge session.failures failure with
      | some error => (.error error, reported)
      | none => rest.run setting reported

end Script

namespace Rule

def allScript (rules : List Rule) : Script (List Bool) := Script.sequence (rules.map Rule.script)

/-- Evaluates rules in order up to the first that is true and answers its index. -/
def firstScript : List Rule → Script (Option Nat)
  | [] => .done none
  | rule :: rules => rule.script.bind fun answer =>
      if answer then .done (some 0)
      else (firstScript rules).bind fun index => .done (index.map (· + 1))

def evaluate (setting : Setting) (rule : Rule) : Except Error Bool :=
  (rule.script.run setting .fresh).1

def evaluateAll (setting : Setting) (rules : List Rule) : Except Error (List Bool) :=
  ((allScript rules).run setting .fresh).1

def evaluateFirst (setting : Setting) (rules : List Rule) : Except Error (Option Nat) :=
  ((firstScript rules).run setting .fresh).1

end Rule

end Verdict
