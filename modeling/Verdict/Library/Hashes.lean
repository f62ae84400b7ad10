import Verdict.Hash.Murmur
import Verdict.Hash.Rolling
import Verdict.Library.Shape

/-!
# Hash functions

Hashes of data as signed numbers: the rolling hash of 32 bits, and the first word of the Murmur
hash, whose 64 bits are rounded to the nearest number.
-/

set_option autoImplicit false

namespace Verdict

namespace Library

def hashing (name : String) (hash : Datum → Int) : Function :=
  ⟨name, [.unary name fun operand =>
    (operand.datumOr .null).bind fun datum => .done (.number (.ofInt (hash datum)))]⟩

def rollingHash : Function :=
  hashing "utils.hash_j" fun datum => Hash.signed32 (Hash.rollDatum datum)

def murmurHash : Function :=
  hashing "utils.hash_m128" fun datum => Hash.signed64 (Hash.murmur 0 (Hash.datumBytes datum)).first

def hashes : List Function := [rollingHash, murmurHash]

end Library

end Verdict
