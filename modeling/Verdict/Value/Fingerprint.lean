import Verdict.Value.Basic

/-!
# Fingerprints of values

The words that identify a value in a hashed collection. Like equality they leave implementations
out.
-/

set_option autoImplicit false

namespace Verdict

namespace Role

def fingerprint : Option Role → List Nat
  | none => [0]
  | some .numeric => [1]
  | some .string => [2]
  | some .boolean => [3]
  | some .array => [4]
  | some .object => [5]

end Role

namespace Address

def fingerprint : Address → List Nat
  | .path address => 0 :: Datum.textFingerprint address.text.toList
  | .pointer address => 1 :: Datum.textFingerprint address.text.toList

end Address

namespace Dialect

def fingerprint : Dialect → List Nat
  | .path => [0]
  | .pointer => [1]

end Dialect

namespace Signature

def fingerprint (signature : Signature) : List Nat :=
  signature.parameters.length :: signature.parameters.flatMap fun parameter =>
    match parameter with
    | .value => [0]
    | .valueArray => [1]
    | .native type => 2 :: Datum.textFingerprint type.toList

end Signature

mutual

/-- The words that identify a value. A number enters by its bits. -/
def Value.fingerprint : Value → List Nat
  | .number value => [0, value.bits.toNat]
  | .string text => 1 :: Datum.textFingerprint text.toList
  | .boolean truth => [2, truth.toNat]
  | .array items => 3 :: items.length :: Value.listFingerprint items
  | .object value => 4 :: value.fingerprint
  | .located role address => 5 :: (Role.fingerprint role ++ address.fingerprint)
  | .computed role dialect call =>
      6 :: (Role.fingerprint role ++ dialect.fingerprint ++ Call.fingerprint call)
  | .called role call => 7 :: (Role.fingerprint role ++ Call.fingerprint call)

def Value.listFingerprint : List Value → List Nat
  | [] => []
  | value :: values => Value.fingerprint value ++ Value.listFingerprint values

def Call.fingerprint : Call → List Nat
  | .mk name arguments signature _ _ =>
      Datum.textFingerprint name.toList ++ arguments.length :: Value.listFingerprint arguments ++
        signature.fingerprint

end

end Verdict
