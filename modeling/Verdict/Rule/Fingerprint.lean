import Verdict.Rule.Basic
import Verdict.Value.Fingerprint

/-!
# Fingerprints of rules

The words that identify a rule in a hashed collection.
-/

set_option autoImplicit false

namespace Verdict

namespace Connective

def fingerprint : Connective → Nat
  | .all => 0
  | .any => 1

end Connective

namespace Operator

def fingerprint : Operator → Nat
  | .both => 0
  | .either => 1
  | .equal => 2
  | .notEqual => 3
  | .greater => 4
  | .greaterEqual => 5
  | .less => 6
  | .lessEqual => 7

end Operator

namespace Rule

mutual

def fingerprint : Rule → List Nat
  | .combined connective first others =>
      0 :: connective.fingerprint :: others.length :: (fingerprint first ++ listFingerprint others)
  | .negation operand => 1 :: operand.fingerprint
  | .binary operator left right =>
      2 :: operator.fingerprint :: (left.fingerprint ++ right.fingerprint)

def listFingerprint : List Rule → List Nat
  | [] => []
  | rule :: rules => fingerprint rule ++ listFingerprint rules

end

end Rule

end Verdict
