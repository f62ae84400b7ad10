import Verdict.Proofs.Value.Equality
import Verdict.Rule.Basic

/-! Structural equality of values and rules as equality of canonical forms. The form of a call keeps
its name, its arguments and the shape of its overload; the implementation and the values attached to
the overload are taken away. -/

set_option autoImplicit false

namespace Verdict

theorem Address.same_iff {left right : Address} : left.same right = true ↔ left = right := by
  cases left <;> cases right
  case path.path left right =>
    rw [same, beq_iff_eq, path.injEq]
    exact ⟨Path.ext_text, congrArg Path.text⟩
  case pointer.pointer left right =>
    rw [same, beq_iff_eq, pointer.injEq]
    exact ⟨Pointer.ext_text, congrArg Pointer.text⟩
  all_goals simp [same]

mutual

/-- Every document among the literals of the value is in range. -/
def Value.InRange : Value → Prop
  | .array items => Value.AllInRange items
  | .object value => value.InRange
  | .computed _ _ call => Call.InRange call
  | .called _ call => Call.InRange call
  | _ => True

def Value.AllInRange : List Value → Prop
  | [] => True
  | value :: values => Value.InRange value ∧ Value.AllInRange values

def Call.InRange : Call → Prop
  | .mk _ arguments _ _ _ => Value.AllInRange arguments

end

mutual

/-- The value with canonical literals and calls. -/
def Value.canonical : Value → Value
  | .array items => .array (Value.canonicalAll items)
  | .object value => .object value.canonical
  | .computed role dialect call => .computed role dialect (Call.canonical call)
  | .called role call => .called role (Call.canonical call)
  | value => value

def Value.canonicalAll : List Value → List Value
  | [] => []
  | value :: values => Value.canonical value :: Value.canonicalAll values

/-- The call without its implementation. -/
def Call.canonical : Call → Call
  | .mk name arguments signature _ _ =>
      .mk name (Value.canonicalAll arguments) signature [] fun _ => .done (.boolean false)

end

mutual

theorem Value.same_iff (left right : Value)
    (leftInRange : left.InRange) (rightInRange : right.InRange) :
    left.same right = true ↔ left.canonical = right.canonical := by
  cases left <;> cases right
  case array.array lefts rights =>
    simp only [Value.same, Value.canonical, Value.array.injEq]
    exact Value.sameAll_iff lefts rights leftInRange rightInRange
  case object.object left right =>
    simp only [Value.same, Value.canonical, Value.object.injEq]
    exact Datum.same_iff left right leftInRange rightInRange
  case located.located leftRole left rightRole right =>
    rw [Value.same, Bool.and_eq_true, beq_iff_eq, Address.same_iff, Value.canonical,
      Value.canonical, Value.located.injEq]
    all_goals simp
  case computed.computed leftRole leftDialect left rightRole rightDialect right =>
    rw [Value.same, Bool.and_eq_true, Bool.and_eq_true, beq_iff_eq, beq_iff_eq, Value.canonical,
      Value.canonical, Value.computed.injEq, and_assoc,
      Call.same_iff left right leftInRange rightInRange]
  case called.called leftRole left rightRole right =>
    rw [Value.same, Bool.and_eq_true, beq_iff_eq, Value.canonical, Value.canonical,
      Value.called.injEq, Call.same_iff left right leftInRange rightInRange]
  all_goals simp [Value.same, Value.canonical]

theorem Value.sameAll_iff (lefts rights : List Value)
    (leftInRange : Value.AllInRange lefts) (rightInRange : Value.AllInRange rights) :
    Value.sameAll lefts rights = true ↔ Value.canonicalAll lefts = Value.canonicalAll rights := by
  cases lefts <;> cases rights
  case cons.cons left lefts right rights =>
    rw [Value.sameAll, Bool.and_eq_true, Value.canonicalAll, Value.canonicalAll, List.cons.injEq,
      Value.same_iff left right leftInRange.1 rightInRange.1,
      Value.sameAll_iff lefts rights leftInRange.2 rightInRange.2]
  all_goals simp [Value.sameAll, Value.canonicalAll]

theorem Call.same_iff (left right : Call)
    (leftInRange : left.InRange) (rightInRange : right.InRange) :
    left.same right = true ↔ left.canonical = right.canonical := by
  obtain ⟨leftName, lefts, leftSignature, leftAttached, leftImplementation⟩ := left
  obtain ⟨rightName, rights, rightSignature, rightAttached, rightImplementation⟩ := right
  rw [Call.same, Bool.and_eq_true, Bool.and_eq_true, beq_iff_eq, beq_iff_eq, and_assoc,
    Value.sameAll_iff lefts rights leftInRange rightInRange, Call.canonical, Call.canonical,
    Call.mk.injEq]
  simp only [and_true]

end

namespace Rule

mutual

/-- Every document among the literals of the rule is in range. -/
def InRange : Rule → Prop
  | .combined _ first others => InRange first ∧ AllInRange others
  | .negation operand => operand.InRange
  | .binary _ left right => left.InRange ∧ right.InRange

def AllInRange : List Rule → Prop
  | [] => True
  | rule :: rules => InRange rule ∧ AllInRange rules

end

mutual

/-- The rule with canonical values. -/
def canonical : Rule → Rule
  | .combined connective first others =>
      .combined connective (canonical first) (canonicalAll others)
  | .negation operand => .negation operand.canonical
  | .binary operator left right => .binary operator left.canonical right.canonical

def canonicalAll : List Rule → List Rule
  | [] => []
  | rule :: rules => canonical rule :: canonicalAll rules

end

mutual

theorem same_iff (left right : Rule)
    (leftInRange : left.InRange) (rightInRange : right.InRange) :
    left.same right = true ↔ left.canonical = right.canonical := by
  cases left <;> cases right
  case combined.combined leftConnective left lefts rightConnective right rights =>
    rw [same, Bool.and_eq_true, Bool.and_eq_true, beq_iff_eq, and_assoc, canonical, canonical,
      combined.injEq, same_iff left right leftInRange.1 rightInRange.1,
      sameAll_iff lefts rights leftInRange.2 rightInRange.2]
  case negation.negation left right =>
    rw [same, canonical, canonical, negation.injEq,
      Value.same_iff left right leftInRange rightInRange]
  case binary.binary leftOperator left first rightOperator right second =>
    rw [same, Bool.and_eq_true, Bool.and_eq_true, beq_iff_eq, and_assoc, canonical, canonical,
      binary.injEq, Value.same_iff left right leftInRange.1 rightInRange.1,
      Value.same_iff first second leftInRange.2 rightInRange.2]
  all_goals simp [same, canonical]

theorem sameAll_iff (lefts rights : List Rule)
    (leftInRange : AllInRange lefts) (rightInRange : AllInRange rights) :
    sameAll lefts rights = true ↔ canonicalAll lefts = canonicalAll rights := by
  cases lefts <;> cases rights
  case cons.cons left lefts right rights =>
    rw [sameAll, Bool.and_eq_true, canonicalAll, canonicalAll, List.cons.injEq,
      same_iff left right leftInRange.1 rightInRange.1,
      sameAll_iff lefts rights leftInRange.2 rightInRange.2]
  all_goals simp [sameAll, canonicalAll]

end

end Rule

end Verdict
