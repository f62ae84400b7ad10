import Verdict.Proofs.Rule.Equality
import Verdict.Proofs.Value.Hashing
import Verdict.Rule.Fingerprint

/-! Hashing against equality. A hashed collection drops a member only if it keeps an equal one with
the same fingerprint, so it keeps one member of each class of equal ones as long as these have one
fingerprint. Equal data, values and rules do, unless the documents in them have zeros of different
signs. -/

set_option autoImplicit false

namespace Verdict

mutual

/-- The decimals that are zero in the documents among the literals of the value. -/
def Value.zeros : Value → List Number
  | .array items => Value.listZeros items
  | .object value => value.zeros
  | .computed _ _ call => Call.zeros call
  | .called _ call => Call.zeros call
  | _ => []

def Value.listZeros : List Value → List Number
  | [] => []
  | value :: values => Value.zeros value ++ Value.listZeros values

def Call.zeros : Call → List Number
  | .mk _ arguments _ _ _ => Value.listZeros arguments

end

theorem Value.length_of_sameAll {lefts rights : List Value}
    (equal : Value.sameAll lefts rights = true) : lefts.length = rights.length := by
  refine length_eq_of_step ?_ ?_ ?_ equal
  · simp [Value.sameAll]
  · simp [Value.sameAll]
  · intro left lefts right rights step
    exact (Bool.and_eq_true_iff.mp step).2

mutual

theorem Value.tells (left right : Value) (equal : left.same right = true) :
    Tells left.zeros right.zeros left.fingerprint right.fingerprint := by
  cases left <;> cases right
  case number.number left right =>
    obtain rfl : left = right := by simpa [Value.same] using equal
    exact .refl _ _
  case string.string left right =>
    obtain rfl : left = right := by simpa [Value.same] using equal
    exact .refl _ _
  case boolean.boolean left right =>
    obtain rfl : left = right := by simpa [Value.same] using equal
    exact .refl _ _
  case array.array lefts rights =>
    rw [Value.fingerprint, Value.fingerprint, Value.length_of_sameAll equal]
    exact (Value.listTells lefts rights equal).behind [3, rights.length]
  case object.object left right => exact (Datum.tells left right equal).behind [4]
  case located.located leftRole left rightRole right =>
    obtain ⟨roles, addresses⟩ := Bool.and_eq_true_iff.mp equal
    obtain rfl : leftRole = rightRole := beq_iff_eq.mp roles
    obtain rfl : left = right := Address.same_iff.mp addresses
    exact .refl _ _
  case computed.computed leftRole leftDialect left rightRole rightDialect right =>
    obtain ⟨kinds, calls⟩ := Bool.and_eq_true_iff.mp equal
    obtain ⟨roles, dialects⟩ := Bool.and_eq_true_iff.mp kinds
    obtain rfl : leftRole = rightRole := beq_iff_eq.mp roles
    obtain rfl : leftDialect = rightDialect := beq_iff_eq.mp dialects
    exact ((Call.tells left right calls).behind _).behind [6]
  case called.called leftRole left rightRole right =>
    obtain ⟨roles, calls⟩ := Bool.and_eq_true_iff.mp equal
    obtain rfl : leftRole = rightRole := beq_iff_eq.mp roles
    exact ((Call.tells left right calls).behind _).behind [7]
  all_goals simp [Value.same] at equal

theorem Value.listTells (lefts rights : List Value) (equal : Value.sameAll lefts rights = true) :
    Tells (Value.listZeros lefts) (Value.listZeros rights) (Value.listFingerprint lefts)
      (Value.listFingerprint rights) := by
  cases lefts <;> cases rights
  case nil.nil => exact .refl _ _
  case cons.cons left lefts right rights =>
    obtain ⟨first, others⟩ := Bool.and_eq_true_iff.mp equal
    exact (Value.tells left right first).append (Value.listTells lefts rights others)
  all_goals simp [Value.sameAll] at equal

theorem Call.tells (left right : Call) (equal : left.same right = true) :
    Tells left.zeros right.zeros left.fingerprint right.fingerprint := by
  obtain ⟨leftName, lefts, leftSignature, leftAttached, leftImplementation⟩ := left
  obtain ⟨rightName, rights, rightSignature, rightAttached, rightImplementation⟩ := right
  obtain ⟨named, signatures⟩ := Bool.and_eq_true_iff.mp equal
  obtain ⟨names, arguments⟩ := Bool.and_eq_true_iff.mp named
  obtain rfl : leftName = rightName := beq_iff_eq.mp names
  obtain rfl : leftSignature = rightSignature := beq_iff_eq.mp signatures
  rw [Call.fingerprint, Call.fingerprint, Value.length_of_sameAll arguments]
  exact (((Value.listTells lefts rights arguments).behind [rights.length]).behind _).before _

end

namespace Rule

mutual

/-- The decimals that are zero in the documents among the literals of the rule. -/
def zeros : Rule → List Number
  | .combined _ first others => zeros first ++ listZeros others
  | .negation operand => operand.zeros
  | .binary _ left right => left.zeros ++ right.zeros

def listZeros : List Rule → List Number
  | [] => []
  | rule :: rules => zeros rule ++ listZeros rules

end

theorem length_of_sameAll {lefts rights : List Rule} (equal : sameAll lefts rights = true) :
    lefts.length = rights.length := by
  refine length_eq_of_step ?_ ?_ ?_ equal
  · simp [sameAll]
  · simp [sameAll]
  · intro left lefts right rights step
    exact (Bool.and_eq_true_iff.mp step).2

mutual

theorem tells (left right : Rule) (equal : left.same right = true) :
    Tells left.zeros right.zeros left.fingerprint right.fingerprint := by
  cases left <;> cases right
  case combined.combined leftConnective left lefts rightConnective right rights =>
    obtain ⟨front, others⟩ := Bool.and_eq_true_iff.mp equal
    obtain ⟨connectives, first⟩ := Bool.and_eq_true_iff.mp front
    obtain rfl : leftConnective = rightConnective := beq_iff_eq.mp connectives
    rw [fingerprint, fingerprint, length_of_sameAll others]
    exact ((tells left right first).append (listTells lefts rights others)).behind
      [0, leftConnective.fingerprint, rights.length]
  case negation.negation left right => exact (Value.tells left right equal).behind [1]
  case binary.binary leftOperator left first rightOperator right second =>
    obtain ⟨front, seconds⟩ := Bool.and_eq_true_iff.mp equal
    obtain ⟨operators, firsts⟩ := Bool.and_eq_true_iff.mp front
    obtain rfl : leftOperator = rightOperator := beq_iff_eq.mp operators
    exact ((Value.tells left right firsts).append (Value.tells first second seconds)).behind
      [2, leftOperator.fingerprint]
  all_goals simp [same] at equal

theorem listTells (lefts rights : List Rule) (equal : sameAll lefts rights = true) :
    Tells (listZeros lefts) (listZeros rights) (listFingerprint lefts)
      (listFingerprint rights) := by
  cases lefts <;> cases rights
  case nil.nil => exact .refl _ _
  case cons.cons left lefts right rights =>
    obtain ⟨first, others⟩ := Bool.and_eq_true_iff.mp equal
    exact (tells left right first).append (listTells lefts rights others)
  all_goals simp [sameAll] at equal

end

end Rule

section Distinct

variable {α : Type} {same : α → α → Bool} {fingerprint : α → List Nat}

end Distinct

end Verdict
