import Verdict.Proofs.Registry.Growth
import Verdict.Proofs.Rule.Equality
import Verdict.Proofs.Rule.Reading
import Verdict.Proofs.Session.Strategies

/-! Structural equality of rules that were read is identity. It leaves out the implementations of
calls, but all calls were bound in one registry, where the name and the number of arguments fix the
overload for good. So equal rules also evaluate alike. -/

set_option autoImplicit false

namespace Verdict

variable {registry : Registry}

mutual

theorem Value.eq_of_same (left right : Value) (leftRead : left.ReadIn registry)
    (rightRead : right.ReadIn registry) (same : left.same right = true) : left = right := by
  cases left <;> cases right
  case array.array lefts rights =>
    exact congrArg Value.array (Value.all_eq_of_same lefts rights leftRead rightRead same)
  case object.object left right => exact leftRead.elim
  case located.located leftRole left rightRole right =>
    obtain ⟨roles, addresses⟩ := Bool.and_eq_true_iff.mp same
    rw [beq_iff_eq.mp roles, Address.same_iff.mp addresses]
  case computed.computed leftRole leftDialect left rightRole rightDialect right =>
    obtain ⟨spelling, calls⟩ := Bool.and_eq_true_iff.mp same
    obtain ⟨roles, dialects⟩ := Bool.and_eq_true_iff.mp spelling
    rw [beq_iff_eq.mp roles, beq_iff_eq.mp dialects,
      Call.eq_of_same left right leftRead rightRead calls]
  case called.called leftRole left rightRole right =>
    obtain ⟨roles, calls⟩ := Bool.and_eq_true_iff.mp same
    rw [beq_iff_eq.mp roles, Call.eq_of_same left right leftRead rightRead calls]
  -- Literals that are equal are identical, and values of different forms are not equal.
  all_goals simp_all [Value.same]

theorem Value.all_eq_of_same (lefts rights : List Value)
    (leftRead : Value.AllReadIn registry lefts) (rightRead : Value.AllReadIn registry rights)
    (same : Value.sameAll lefts rights = true) : lefts = rights := by
  cases lefts <;> cases rights
  case nil.nil => rfl
  case cons.cons left lefts right rights =>
    obtain ⟨first, others⟩ := Bool.and_eq_true_iff.mp same
    rw [Value.eq_of_same left right leftRead.1 rightRead.1 first,
      Value.all_eq_of_same lefts rights leftRead.2 rightRead.2 others]
  all_goals cases same

theorem Call.eq_of_same (left right : Call) (leftRead : left.ReadIn registry)
    (rightRead : right.ReadIn registry) (same : left.same right = true) : left = right := by
  obtain ⟨leftName, lefts, leftSignature, leftAttached, leftImplementation⟩ := left
  obtain ⟨rightName, rights, rightSignature, rightAttached, rightImplementation⟩ := right
  obtain ⟨resolvedLeft, leftsRead⟩ := leftRead
  obtain ⟨resolvedRight, rightsRead⟩ := rightRead
  obtain ⟨called, -⟩ := Bool.and_eq_true_iff.mp same
  obtain ⟨names, arguments⟩ := Bool.and_eq_true_iff.mp called
  obtain rfl := beq_iff_eq.mp names
  obtain rfl := Value.all_eq_of_same lefts rights leftsRead rightsRead arguments
  -- The same name and as many arguments: both have the overload that the registry has for them.
  rw [resolvedLeft] at resolvedRight
  cases resolvedRight
  rfl

end

namespace Rule

mutual

theorem eq_of_same (left right : Rule) (leftRead : left.ReadIn registry)
    (rightRead : right.ReadIn registry) (same : left.same right = true) : left = right := by
  cases left <;> cases right
  case combined.combined leftConnective left lefts rightConnective right rights =>
    obtain ⟨front, others⟩ := Bool.and_eq_true_iff.mp same
    obtain ⟨connectives, first⟩ := Bool.and_eq_true_iff.mp front
    rw [beq_iff_eq.mp connectives, eq_of_same left right leftRead.1 rightRead.1 first,
      all_eq_of_same lefts rights leftRead.2 rightRead.2 others]
  case negation.negation left right =>
    exact congrArg Rule.negation (left.eq_of_same right leftRead rightRead same)
  case binary.binary leftOperator left first rightOperator right second =>
    obtain ⟨front, seconds⟩ := Bool.and_eq_true_iff.mp same
    obtain ⟨operators, firsts⟩ := Bool.and_eq_true_iff.mp front
    rw [beq_iff_eq.mp operators, left.eq_of_same right leftRead.1 rightRead.1 firsts,
      first.eq_of_same second leftRead.2 rightRead.2 seconds]
  all_goals cases same

theorem all_eq_of_same (lefts rights : List Rule) (leftRead : AllReadIn registry lefts)
    (rightRead : AllReadIn registry rights) (same : sameAll lefts rights = true) :
    lefts = rights := by
  cases lefts <;> cases rights
  case nil.nil => rfl
  case cons.cons left lefts right rights =>
    obtain ⟨first, others⟩ := Bool.and_eq_true_iff.mp same
    rw [eq_of_same left right leftRead.1 rightRead.1 first,
      all_eq_of_same lefts rights leftRead.2 rightRead.2 others]
  all_goals cases same

end

/-- Rules that were read through one registry, at whatever moments of its history, evaluate alike
if they are structurally equal: they answer the same and report the same failures. -/
theorem observe_eq_of_same (requests : List Registry.Request) (moment other : Nat)
    {leftText rightText : String} {left right : Rule}
    (leftRead : parseRule (Registry.empty.performAll (requests.take moment)) leftText = .ok left)
    (rightRead : parseRule (Registry.empty.performAll (requests.take other)) rightText = .ok right)
    (same : left.same right = true) (setting : Setting) :
    left.observe setting = right.observe setting := by
  have leftStays := parseRule_of_grows (Registry.grows_of_take .empty requests moment) leftRead
  have rightStays := parseRule_of_grows (Registry.grows_of_take .empty requests other) rightRead
  rw [eq_of_same left right (readIn_of_parseRule leftStays) (readIn_of_parseRule rightStays) same]

/-- Between the two moments another implementation is offered under the name, and refused. -/
theorem observe_eq_of_same_offered :
    ∃ requests : List Registry.Request, ∃ left right : Rule,
      parseRule (Registry.empty.performAll (requests.take 1)) "^path.exists('$.a')" = .ok left ∧
      parseRule (Registry.empty.performAll (requests.take 2)) "(^ path.exists( '$.a' ))" =
        .ok right ∧
      left.same right = true ∧ ∀ setting, left.observe setting = right.observe setting := by
  let requests : List Registry.Request :=
    [.discover [], .register ⟨"path.exists", [.constant (.fixed 1) (.boolean true)]⟩]
  have read : (match parseRule (Registry.empty.performAll (requests.take 1)) "^path.exists('$.a')",
      parseRule (Registry.empty.performAll (requests.take 2)) "(^ path.exists( '$.a' ))" with
      | .ok left, .ok right => left.same right
      | _, _ => false) = true := by decide +kernel
  split at read
  · rename_i left right leftRead rightRead
    exact ⟨requests, left, right, leftRead, rightRead, read,
      observe_eq_of_same requests 1 2 leftRead rightRead read⟩
  · cases read

end Rule

end Verdict
