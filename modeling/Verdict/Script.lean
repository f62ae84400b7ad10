import Verdict.Error

/-!
# Scripts

A script is a computation that asks its surroundings: it looks addresses up, reads the clock and
reports failures. It ends with a value or with an error of its own. What a look-up finds and whether
a failure is recovered from is decided by whoever runs the script, so nothing in a script depends on
caches or on strategies.
-/

set_option autoImplicit false

namespace Verdict

inductive Reading where
  | epochMilliseconds
  | hourOfDay
deriving DecidableEq

/-- A computation with a result of type `α` in the form of the questions that it asks. -/
inductive Script (α : Type) : Type where
  | done (value : α)
  | fail (error : Error)
  | look (address : Address) (next : Option Json → Script α)
  | read (reading : Reading) (next : Number → Script α)
  /-- Reports a failure; the rest is what follows if it is recovered from. -/
  | report (failure : Failure) (rest : Script α)

namespace Script

def bind {α β : Type} : Script α → (α → Script β) → Script β
  | .done value, next => next value
  | .fail error, _ => .fail error
  | .look address answer, next => .look address fun found => (answer found).bind next
  | .read reading answer, next => .read reading fun number => (answer number).bind next
  | .report failure rest, next => .report failure (rest.bind next)

instance : Monad Script where
  pure := .done
  bind := Script.bind

def lookUp (address : Address) : Script (Option Json) := .look address .done

def readClock (reading : Reading) : Script Number := .read reading .done

/-- Reports a failure; the value is missing if it is recovered from. -/
def reportMissing {α : Type} (failure : Failure) : Script (Option α) := .report failure (.done none)

def reportIllegal {α : Type} (cause : Illegality) : Script (Option α) :=
  reportMissing (.illegal cause)

def sequence {α : Type} : List (Script α) → Script (List α)
  | [] => .done []
  | script :: scripts => script.bind fun value => (sequence scripts).bind fun values =>
      .done (value :: values)

end Script

end Verdict
