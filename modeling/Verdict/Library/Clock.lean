import Verdict.Library.Shape

/-!
# Clock functions

The milliseconds since the epoch and the hour of the day, each read anew by every call.
-/

set_option autoImplicit false

namespace Verdict

namespace Library

def clockReading (name : String) (reading : Reading) : Function :=
  ⟨name, [.nullary name ((Script.readClock reading).bind fun number => .done (.number number))]⟩

def epoch : Function := clockReading "sys.epoch" .epochMilliseconds

def hourOfDay : Function := clockReading "date.hour_of_day" .hourOfDay

def clock : List Function := [epoch, hourOfDay]

end Library

end Verdict
