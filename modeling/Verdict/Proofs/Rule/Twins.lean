import Verdict.Proofs.Rule.Binding
import Verdict.Proofs.Session.Silence
import Verdict.Proofs.Session.Strategies
import Verdict.Proofs.Value.Twins
import Verdict.Registry.Discovery

/-! Rules on documents that differ in how numbers are stored. A number is the same to rules whichever
way it is stored, in arrays at any depth as well. An object is left as it is: only where a rule
compares or hashes an object, or looks for one, may the storage of the numbers in it show. -/

set_option autoImplicit false

namespace Verdict

open Script

/-- The address that is computed if every failure is recovered from. -/
def Operand.placed (document : Json) (clock : Reading → Number) (dialect : Dialect)
    (result : Script Operand) : List Address :=
  match (place dialect result).settled document clock with
  | .ok (some address) => [address]
  | _ => []

mutual

/-- The addresses at which resolving a value weighs what is found as a whole, if every failure is
recovered from. The value itself is weighed or not; a call weighs its arguments if its function
does. -/
def Value.weighed (document : Json) (clock : Reading → Number) (whole : Bool) :
    Value → List Address
  | .array items => if whole then Value.allWeighed document clock true items else []
  | .located _ address => if whole then [address] else []
  | .computed _ dialect call =>
      Call.weighed document clock call ++
        if whole then Operand.placed document clock dialect (Call.result call) else []
  | .called _ call => Call.weighed document clock call
  | _ => []

def Value.allWeighed (document : Json) (clock : Reading → Number) (whole : Bool) :
    List Value → List Address
  | [] => []
  | value :: values =>
      Value.weighed document clock whole value ++ Value.allWeighed document clock whole values

def Call.weighed (document : Json) (clock : Reading → Number) : Call → List Address
  | .mk name arguments _ _ _ => Value.allWeighed document clock (Library.weighs name) arguments

end

namespace Rule

/-- Whether a member answers so that a connective asks no further one. -/
def decides (document : Json) (clock : Reading → Number) (connective : Connective) (member : Rule) :
    Bool :=
  match member.script.settled document clock with
  | .ok answer => answer == connective.decider
  | .error _ => true

mutual

/-- The addresses at which an evaluation weighs what is found as a whole, if every failure is
recovered from. Members behind one that decides are not evaluated. -/
def weighed (document : Json) (clock : Reading → Number) : Rule → List Address
  | .combined connective first others =>
      weighed document clock first ++
        if decides document clock connective first then []
        else othersWeighed document clock connective others
  | .negation operand => operand.weighed document clock false
  | .binary operator left right =>
      left.weighed document clock operator.weighs ++ right.weighed document clock operator.weighs

def othersWeighed (document : Json) (clock : Reading → Number) (connective : Connective) :
    List Rule → List Address
  | [] => []
  | member :: members =>
      weighed document clock member ++
        if decides document clock connective member then []
        else othersWeighed document clock connective members

end

end Rule

section Agreement

variable {twins : Twins}

mutual

theorem Value.operand_alike (whole : Bool) (value : Value)
    (bound : value.BoundTo Library.standard.functions)
    (keeps : ∀ address ∈ value.weighed twins.first twins.clock whole, twins.Keeps address) :
    value.operand.Alike twins whole := by
  cases value with
  | array items =>
      rw [Value.operand]
      refine Operand.ofArray_alike fun weighed => ?_
      refine Value.operands_alike true items bound fun address member => keeps address ?_
      rwa [Value.weighed, if_pos weighed]
  | located role address =>
      rw [Value.operand]
      refine Operand.ofAddress_alike fun weighed => keeps address ?_
      rw [Value.weighed, if_pos weighed]
      exact List.mem_singleton_self address
  | computed role dialect call =>
      rw [Value.weighed] at keeps
      obtain ⟨inCall, atPlace⟩ := List.forall_mem_append.mp keeps
      rw [Value.operand]
      refine Operand.computed_alike (Call.result_agrees call bound inCall)
        fun weighed address settled => atPlace address ?_
      rw [if_pos weighed, Operand.placed, settled]
      exact List.mem_singleton_self address
  | called role call =>
      rw [Value.weighed] at keeps
      rw [Value.operand]
      exact (Operand.chased_obeys Agrees.steps (Call.result_agrees call bound keeps)).serves
        Agrees.steps whole
  | _ =>
      rw [Value.operand]
      exact (Operand.scalar_obeys Agrees.steps _ _ _ _ _).serves Agrees.steps whole

theorem Value.operands_alike (whole : Bool) (values : List Value)
    (bound : Value.AllBoundTo Library.standard.functions values)
    (keeps : ∀ address ∈ Value.allWeighed twins.first twins.clock whole values,
      twins.Keeps address) :
    ∀ operand ∈ Value.operands values, operand.Alike twins whole := by
  cases values with
  | nil => simp [Value.operands]
  | cons first others =>
      rw [Value.allWeighed] at keeps
      obtain ⟨front, behind⟩ := List.forall_mem_append.mp keeps
      rw [Value.operands]
      exact List.forall_mem_cons.mpr ⟨Value.operand_alike whole first bound.1 front,
        Value.operands_alike whole others bound.2 behind⟩

theorem Call.result_agrees (call : Call) (bound : call.BoundTo Library.standard.functions)
    (keeps : ∀ address ∈ call.weighed twins.first twins.clock, twins.Keeps address) :
    (Call.result call).Agrees twins
      (Operand.Obeys fun _ good script => script.Agrees twins good) := by
  obtain ⟨name, arguments, signature, attached, implementation⟩ := call
  obtain ⟨⟨function, included, rfl, resolved⟩, argumentsBound⟩ := bound
  obtain ⟨member, accepted⟩ := Function.accepts_of_resolve resolved
  rw [Call.weighed] at keeps
  have alike := Value.operands_alike _ arguments argumentsBound keeps
  have serves := Library.standard_serves (@Agrees.steps twins) function included _ member
  rw [← Value.length_operands] at accepted
  rw [Call.result]
  refine Agrees.bind (serves.replies _ accepted alike) fun reply scalar => ?_
  cases scalar with
  | number => exact .done (Operand.scalar_obeys Agrees.steps _ _ _ _ _)
  | string => exact .done (Operand.scalar_obeys Agrees.steps _ _ _ _ _)
  | boolean => exact .done (Operand.scalar_obeys Agrees.steps _ _ _ _ _)

end

mutual

theorem Rule.script_agrees (rule : Rule) (bound : rule.BoundTo Library.standard.functions)
    (keeps : ∀ address ∈ rule.weighed twins.first twins.clock, twins.Keeps address) :
    rule.script.Agrees twins fun _ => True := by
  cases rule with
  | combined connective first others =>
      rw [Rule.weighed] at keeps
      obtain ⟨front, behind⟩ := List.forall_mem_append.mp keeps
      rw [Rule.script]
      -- The addresses behind the first member count only if its answer leaves the others to run.
      refine (Rule.script_agrees first bound.1 front).settles.bind fun answer settled => ?_
      split
      · exact .done trivial
      · rename_i undecided
        refine Rule.othersScript_agrees connective others bound.2 fun address member =>
          behind address ?_
        rwa [Rule.decides, settled.2, if_neg (by simpa using undecided)]
  | negation operand =>
      rw [Rule.script]
      exact Agrees.steps.map ((Value.operand_alike false operand bound keeps).booleanOr
        Agrees.steps _) fun _ _ => trivial
  | binary operator left right =>
      rw [Rule.weighed] at keeps
      obtain ⟨first, second⟩ := List.forall_mem_append.mp keeps
      rw [Rule.script]
      exact operator.script_holds Agrees.steps (Value.operand_alike _ left bound.1 first)
        (Value.operand_alike _ right bound.2 second)

theorem Rule.othersScript_agrees (connective : Connective) (rules : List Rule)
    (bound : Rule.AllBoundTo Library.standard.functions rules)
    (keeps : ∀ address ∈ Rule.othersWeighed twins.first twins.clock connective rules,
      twins.Keeps address) :
    (Rule.othersScript connective rules).Agrees twins fun _ => True := by
  cases rules with
  | nil =>
      rw [Rule.othersScript]
      exact .done trivial
  | cons first others =>
      rw [Rule.othersWeighed] at keeps
      obtain ⟨front, behind⟩ := List.forall_mem_append.mp keeps
      rw [Rule.othersScript]
      refine (Rule.script_agrees first bound.1 front).settles.bind fun answer settled => ?_
      split
      · exact .done trivial
      · rename_i undecided
        refine Rule.othersScript_agrees connective others bound.2 fun address member =>
          behind address ?_
        rwa [Rule.decides, settled.2, if_neg (by simpa using undecided)]

end

end Agreement

/-- Documents that are the same except for how their numbers are stored are the same to a rule: it
answers and reports the same on both under every strategy, as long as the objects that it weighs as
a whole are the same, storage included. -/
theorem Rule.observe_eq_of_widened {rule : Rule}
    (bound : rule.BoundTo Library.standard.functions) {first second : Json}
    (same : first.widened = second.widened) (clock : Reading → Number)
    (kept : ∀ address ∈ rule.weighed first clock,
      (address.locate first).map Json.objects = (address.locate second).map Json.objects)
    (strategy : Strategy) :
    rule.observe ⟨first, strategy, clock⟩ = rule.observe ⟨second, strategy, clock⟩ := by
  have agrees : rule.script.Agrees ⟨first, second, same, clock⟩ fun _ => True :=
    Rule.script_agrees rule bound kept
  obtain ⟨answers, failures⟩ := agrees.run_eq strategy
  exact Prod.ext answers failures

/-- A number inside of an object is compared, and so is an array as a whole. -/
theorem Rule.observe_eq_of_widened_items :
    let first : Json := .object [("a", .array [.number (.whole 1), .array [.number (.whole 2)]]),
      ("o", .object [("k", .number (.whole 1))])]
    let second : Json := .object
      [("a", .array [.number (.decimal .one), .array [.number (.decimal (.ofNat 2))]]),
        ("o", .object [("k", .number (.decimal .one))])]
    let rule : Rule := .combined .all
      (.binary .greater (.located (some .numeric) (.path ⟨"$.o.k", [.key "o", .key "k"], by rfl⟩))
        (.number .zero))
      [.binary .equal (.located (some .object) (.path ⟨"$.a", [.key "a"], by rfl⟩))
        (.array [.number .one, .array [.number (.ofNat 2)]])]
    rule.observe ⟨first, .strict, fun _ => .zero⟩ = (.ok true, []) ∧
      rule.observe ⟨second, .strict, fun _ => .zero⟩ = (.ok true, []) := by
  intro first second rule
  have bound : rule.BoundTo Library.standard.functions :=
    ⟨⟨trivial, trivial⟩, ⟨trivial, trivial, ⟨trivial, trivial⟩, trivial⟩, trivial⟩
  have weighed : rule.weighed first (fun _ => .zero) =
    [.path ⟨"$.a", [.key "a"], by rfl⟩] := by rfl
  have kept : ∀ address ∈ rule.weighed first fun _ => .zero,
      (address.locate first).map Json.objects = (address.locate second).map Json.objects := by
    intro address member
    rw [weighed, List.mem_singleton] at member
    rw [member]
    rfl
  have answers : rule.observe ⟨first, .strict, fun _ => .zero⟩ = (.ok true, []) := by rfl
  have alike := Rule.observe_eq_of_widened bound (by rfl : first.widened = second.widened)
    (fun _ => .zero) kept .strict
  exact ⟨answers, alike.symm.trans answers⟩

/-- Objects that differ in how a number is stored are different, though the documents around them
have the same widened form. -/
theorem Rule.objects_show_storage :
    let object (number : JsonNumber) : Json := .object [("k", .number number)]
    let first : Json := .object [("o", object (.whole 1)), ("p", object (.whole 1))]
    let second : Json := .object [("o", object (.whole 1)), ("p", object (.decimal .one))]
    first.widened = second.widened ∧
    ∃ rule : Rule, parseRule .standard "'$.o' == '$.p'" = .ok rule ∧
      rule.BoundTo Library.standard.functions ∧
      rule.evaluate ⟨first, .strict, fun _ => .zero⟩ = .ok true ∧
      rule.evaluate ⟨second, .strict, fun _ => .zero⟩ = .ok false := by
  intro object first second
  have read : (match parseRule .standard "'$.o' == '$.p'" with
      | .ok rule =>
          rule.script.quiet? first (fun _ => .zero) == some true &&
            rule.script.quiet? second (fun _ => .zero) == some false
      | _ => false) = true := by decide +kernel
  refine ⟨by rfl, ?_⟩
  split at read
  · rename_i rule accepted
    obtain ⟨same, different⟩ := Bool.and_eq_true_iff.mp read
    exact ⟨rule, accepted, boundTo_of_parseRule accepted,
      Rule.evaluate_strict_eq_ok_iff.mpr (beq_iff_eq.mp same),
      Rule.evaluate_strict_eq_ok_iff.mpr (beq_iff_eq.mp different)⟩
  · cases read

end Verdict
