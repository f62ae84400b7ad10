import Verdict.Proofs.Library.Laws
import Verdict.Proofs.Rule.Reading
import Verdict.Proofs.Value.Items
import Verdict.Rule.Evaluation

/-! Rules whose calls are bound to given functions. Reading a rule binds its calls to functions of
the registry, and a rule bound to functions that obey a law of scripts obeys it too. -/

set_option autoImplicit false

namespace Verdict

open Script

mutual

/-- Every call in the value is what binding its name to one of the functions gives. -/
def Value.BoundTo (functions : List Function) : Value → Prop
  | .array items => Value.AllBoundTo functions items
  | .computed _ _ call => Call.BoundTo functions call
  | .called _ call => Call.BoundTo functions call
  | _ => True

def Value.AllBoundTo (functions : List Function) : List Value → Prop
  | [] => True
  | value :: values => Value.BoundTo functions value ∧ Value.AllBoundTo functions values

def Call.BoundTo (functions : List Function) : Call → Prop
  | .mk name arguments signature attached implementation =>
      (∃ function ∈ functions, function.name = name ∧
        function.resolve arguments.length = .ok ⟨signature, attached, implementation⟩) ∧
      Value.AllBoundTo functions arguments

end

mutual

/-- Every call in the rule is bound to one of the functions. -/
def Rule.BoundTo (functions : List Function) : Rule → Prop
  | .combined _ first others => Rule.BoundTo functions first ∧ Rule.AllBoundTo functions others
  | .negation operand => operand.BoundTo functions
  | .binary _ left right => left.BoundTo functions ∧ right.BoundTo functions

def Rule.AllBoundTo (functions : List Function) : List Rule → Prop
  | [] => True
  | rule :: rules => Rule.BoundTo functions rule ∧ Rule.AllBoundTo functions rules

end

/-- Whether the operator compares data. -/
def Operator.weighs : Operator → Bool
  | .equal => true
  | .notEqual => true
  | _ => false

section Members

variable {functions more : List Function}

theorem Value.allBoundTo_iff {values : List Value} :
    Value.AllBoundTo functions values ↔ ∀ value ∈ values, value.BoundTo functions := by
  induction values with
  | nil => simp [AllBoundTo]
  | cons first others ih => simp [AllBoundTo, ih]

theorem Rule.allBoundTo_iff {rules : List Rule} :
    Rule.AllBoundTo functions rules ↔ ∀ rule ∈ rules, rule.BoundTo functions := by
  induction rules with
  | nil => simp [AllBoundTo]
  | cons first others ih => simp [AllBoundTo, ih]

theorem Call.BoundTo.arguments {call : Call} (bound : call.BoundTo functions) :
    ∀ argument ∈ call.arguments, argument.BoundTo functions := by
  cases call with
  | mk => exact Value.allBoundTo_iff.mp bound.2

mutual

theorem Value.BoundTo.mono (subset : functions ⊆ more) (value : Value)
    (bound : value.BoundTo functions) : value.BoundTo more := by
  cases value with
  | array items => exact Value.AllBoundTo.mono subset items bound
  | computed role dialect call => exact Call.BoundTo.mono subset call bound
  | called role call => exact Call.BoundTo.mono subset call bound
  | _ => trivial

theorem Value.AllBoundTo.mono (subset : functions ⊆ more) (values : List Value)
    (bound : Value.AllBoundTo functions values) : Value.AllBoundTo more values := by
  cases values with
  | nil => trivial
  | cons first others =>
      exact ⟨Value.BoundTo.mono subset first bound.1, Value.AllBoundTo.mono subset others bound.2⟩

theorem Call.BoundTo.mono (subset : functions ⊆ more) (call : Call)
    (bound : call.BoundTo functions) : call.BoundTo more := by
  obtain ⟨name, arguments, signature, attached, implementation⟩ := call
  obtain ⟨⟨function, included, chosen⟩, argumentsBound⟩ := bound
  exact ⟨⟨function, subset included, chosen⟩,
    Value.AllBoundTo.mono subset arguments argumentsBound⟩

end

end Members

theorem Registry.exists_of_resolve {registry : Registry} {name : String} {count : Nat}
    {overload : Overload} (resolved : registry.resolve name count = .ok overload) :
    ∃ function ∈ registry.functions, function.name = name ∧
      function.resolve count = .ok overload := by
  unfold resolve at resolved
  cases found : registry.find? name with
  | none => simp [found] at resolved
  | some function =>
      rw [found] at resolved
      refine ⟨function, List.mem_of_find?_eq_some found, ?_, resolved⟩
      simpa using List.find?_some found

theorem Registry.bind_of_resolve {registry : Registry} {name : String} {arguments : List Value}
    {overload : Overload} (resolved : registry.resolve name arguments.length = .ok overload) :
    registry.bind name arguments =
      .ok (.mk name arguments overload.signature overload.attached overload.implementation) := by
  simp [bind, resolved]

theorem Registry.boundTo_of_bind {registry : Registry} {name : String} {arguments : List Value}
    {call : Call} (bound : registry.bind name arguments = .ok call)
    (argumentsBound : Value.AllBoundTo registry.functions arguments) :
    call.BoundTo registry.functions := by
  unfold bind at bound
  split at bound
  · rename_i overload resolved
    cases bound
    exact ⟨exists_of_resolve resolved, argumentsBound⟩
  · cases bound

section Reading

variable {registry : Registry}

mutual

theorem Value.ReadIn.boundTo (value : Value) (read : value.ReadIn registry) :
    value.BoundTo registry.functions := by
  cases value with
  | array items => exact Value.AllReadIn.allBoundTo items read
  | computed role dialect call => exact Call.ReadIn.boundTo call read
  | called role call => exact Call.ReadIn.boundTo call read
  | _ => trivial

theorem Value.AllReadIn.allBoundTo (values : List Value)
    (read : Value.AllReadIn registry values) : Value.AllBoundTo registry.functions values := by
  cases values with
  | nil => trivial
  | cons first others =>
      exact ⟨Value.ReadIn.boundTo first read.1, Value.AllReadIn.allBoundTo others read.2⟩

theorem Call.ReadIn.boundTo (call : Call) (read : call.ReadIn registry) :
    call.BoundTo registry.functions := by
  obtain ⟨name, arguments, signature, attached, implementation⟩ := call
  obtain ⟨resolved, argumentsRead⟩ := read
  exact ⟨Registry.exists_of_resolve resolved, Value.AllReadIn.allBoundTo arguments argumentsRead⟩

end

mutual

theorem Rule.ReadIn.boundTo (rule : Rule) (read : rule.ReadIn registry) :
    rule.BoundTo registry.functions := by
  cases rule with
  | combined connective first others =>
      exact ⟨Rule.ReadIn.boundTo first read.1, Rule.AllReadIn.allBoundTo others read.2⟩
  | negation operand => exact Value.ReadIn.boundTo operand read
  | binary operator left right =>
      exact ⟨Value.ReadIn.boundTo left read.1, Value.ReadIn.boundTo right read.2⟩

theorem Rule.AllReadIn.allBoundTo (rules : List Rule) (read : Rule.AllReadIn registry rules) :
    Rule.AllBoundTo registry.functions rules := by
  cases rules with
  | nil => trivial
  | cons first others =>
      exact ⟨Rule.ReadIn.boundTo first read.1, Rule.AllReadIn.allBoundTo others read.2⟩

end

/-- Reading a rule binds its calls to functions of the registry. -/
theorem boundTo_of_parseRule {text : String} {rule : Rule}
    (accepted : parseRule registry text = .ok rule) : rule.BoundTo registry.functions :=
  Rule.ReadIn.boundTo rule (readIn_of_parseRule accepted)

end Reading

theorem Value.length_operands (values : List Value) :
    (Value.operands values).length = values.length := by
  rw [Value.operands_eq_map, List.length_map]

section Laws

variable {functions : List Function} {holds : Script.Property}

section Replies

variable {arguments attached : List Operand}

theorem Reply.operands_obey (law : Script.Law holds) {replies : List Reply}
    (obey : ∀ reply ∈ replies, holds _ (Operand.Obeys holds) (reply.operand arguments attached)) :
    holds _ (fun operands => ∀ operand ∈ operands, operand.Obeys holds)
      (Reply.operands arguments attached replies) := by
  induction replies with
  | nil => exact law.done (by simp)
  | cons first others ih =>
      obtain ⟨front, behind⟩ := List.forall_mem_cons.mp obey
      refine law.bind front fun operand operandObeys => ?_
      refine law.bind (ih behind) fun operands operandsObey => ?_
      exact law.done (List.forall_mem_cons.mpr ⟨operandObeys, operandsObey⟩)

theorem answered_obeys (law : Script.Law holds) {operands : List Operand}
    (obey : ∀ operand ∈ operands, operand.Obeys holds) {index : Nat}
    (inside : index < operands.length) :
    holds _ (Operand.Obeys holds) (answered operands index) := by
  rw [answered, List.getElem?_eq_getElem inside]
  exact law.done (obey _ (List.getElem_mem inside))

/-- A reply obeys the law if what it may answer with does. -/
theorem Reply.Within.operand_obeys (law : Script.Law holds)
    (argumentsObey : ∀ operand ∈ arguments, operand.Obeys holds)
    (attachedObey : ∀ operand ∈ attached, operand.Obeys holds) {reply : Reply}
    (within : reply.Within arguments.length attached.length) :
    holds _ (Operand.Obeys holds) (reply.operand arguments attached) := by
  induction within with
  | array _ ih =>
      exact law.bind (Reply.operands_obey law ih) fun operands operandsObey =>
        law.done (Operand.ofArray_obeys law.steps operandsObey)
  | address => exact law.done (Operand.ofAddress_obeys law _)
  | argument inside => exact answered_obeys law argumentsObey inside
  | attached inside => exact answered_obeys law attachedObey inside
  | _ => exact law.done (Operand.scalar_obeys law.steps _ _ _ _ _)

end Replies

mutual

theorem Value.operand_obeys (law : Script.Law holds)
    (obey : ∀ function ∈ functions, function.Obeys holds) (value : Value)
    (bound : value.BoundTo functions) : value.operand.Obeys holds := by
  cases value with
  | array items =>
      rw [Value.operand]
      exact Operand.ofArray_obeys law.steps (Value.operands_obey law obey items bound)
  | located role address =>
      rw [Value.operand]
      exact Operand.ofAddress_obeys law address
  | computed role dialect call =>
      rw [Value.operand]
      exact Operand.computed_obeys law (Call.result_obeys law obey call bound)
  | called role call =>
      rw [Value.operand]
      exact Operand.chased_obeys law.steps (Call.result_obeys law obey call bound)
  | _ =>
      rw [Value.operand]
      exact Operand.scalar_obeys law.steps _ _ _ _ _

theorem Value.operands_obey (law : Script.Law holds)
    (obey : ∀ function ∈ functions, function.Obeys holds) (values : List Value)
    (bound : Value.AllBoundTo functions values) :
    ∀ operand ∈ Value.operands values, operand.Obeys holds := by
  cases values with
  | nil => simp [Value.operands]
  | cons first others =>
      intro operand member
      rcases List.mem_cons.mp member with rfl | behind
      · exact Value.operand_obeys law obey first bound.1
      · exact Value.operands_obey law obey others bound.2 operand behind

/-- What a call answers with obeys the law, since its arguments and what is attached do. -/
theorem Call.result_obeys (law : Script.Law holds)
    (obey : ∀ function ∈ functions, function.Obeys holds) (call : Call)
    (bound : call.BoundTo functions) :
    holds _ (Operand.Obeys holds) (Call.result call) := by
  obtain ⟨name, arguments, signature, attached, implementation⟩ := call
  obtain ⟨⟨function, included, -, resolved⟩, argumentsBound⟩ := bound
  obtain ⟨member, accepted⟩ := Function.accepts_of_resolve resolved
  have operandsObey := Value.operands_obey law obey arguments argumentsBound
  have overloadObeys := obey function included _ member
  rw [← Value.length_operands] at accepted
  rw [Call.result]
  refine law.bind (overloadObeys.replies _ accepted operandsObey) fun reply within => ?_
  rw [← Value.length_operands] at within
  refine within.operand_obeys law operandsObey ?_
  rw [Value.operands_eq_map]
  exact List.forall_mem_map.mpr overloadObeys.attached

end

/-- What holds of the operands as far as the operator asks holds of the comparison. -/
theorem Operator.script_holds (steps : Script.Steps holds) (operator : Operator)
    {left right : Value} (leftServes : left.operand.Serves holds operator.weighs)
    (rightServes : right.operand.Serves holds operator.weighs) :
    holds _ (fun _ => True) (operator.script left right) := by
  have booleans (answer : Bool → Bool → Bool) :
      holds _ (fun _ => True) ((left.resolveBoolean false).bind fun first =>
        (right.resolveBoolean false).bind fun second => .done (answer first second)) :=
    steps.bind (leftServes.booleanOr steps _) fun _ _ =>
      steps.map (rightServes.booleanOr steps _) fun _ _ => trivial
  have numbers (answer : Number → Number → Bool) :
      holds _ (fun _ => True) ((left.resolveNumber .zero).bind fun first =>
        (right.resolveNumber .zero).bind fun second => .done (answer first second)) :=
    steps.bind (leftServes.numberOr steps _) fun _ _ =>
      steps.map (rightServes.numberOr steps _) fun _ _ => trivial
  have data (weighed : operator.weighs = true) (answer : Datum → Datum → Bool) :
      holds _ (fun _ => True) ((left.resolveDatum .null).bind fun first =>
        (right.resolveDatum .null).bind fun second => .done (answer first second)) := by
    rw [weighed] at leftServes rightServes
    exact steps.bind (leftServes.datumOr steps _) fun _ _ =>
      steps.map (rightServes.datumOr steps _) fun _ _ => trivial
  cases operator with
  | both => exact booleans _
  | either => exact booleans _
  | equal => exact data rfl _
  | notEqual => exact data rfl _
  | greater => exact numbers _
  | greaterEqual => exact numbers _
  | less => exact numbers _
  | lessEqual => exact numbers _

theorem Operator.script_obeys (law : Script.Law holds)
    (obey : ∀ function ∈ functions, function.Obeys holds)
    (operator : Operator) {left right : Value}
    (leftBound : left.BoundTo functions) (rightBound : right.BoundTo functions) :
    holds _ (fun _ => True) (operator.script left right) :=
  operator.script_holds law.steps
    ((Value.operand_obeys law obey left leftBound).serves law.steps _)
    ((Value.operand_obeys law obey right rightBound).serves law.steps _)

mutual

theorem Rule.script_obeys (law : Script.Law holds)
    (obey : ∀ function ∈ functions, function.Obeys holds) (rule : Rule)
    (bound : rule.BoundTo functions) : holds _ (fun _ => True) rule.script := by
  cases rule with
  | combined connective first others =>
      rw [Rule.script]
      refine law.bind (Rule.script_obeys law obey first bound.1) fun answer _ => ?_
      split
      · exact law.pure _
      · exact Rule.othersScript_obeys law obey connective others bound.2
  | negation operand =>
      rw [Rule.script]
      have serves := (Value.operand_obeys law obey operand bound).serves law.steps false
      exact law.map (serves.booleanOr law.steps _) fun _ _ => trivial
  | binary operator left right =>
      rw [Rule.script]
      exact Operator.script_obeys law obey operator bound.1 bound.2

theorem Rule.othersScript_obeys (law : Script.Law holds)
    (obey : ∀ function ∈ functions, function.Obeys holds)
    (connective : Connective) (rules : List Rule) (bound : Rule.AllBoundTo functions rules) :
    holds _ (fun _ => True) (Rule.othersScript connective rules) := by
  cases rules with
  | nil =>
      rw [Rule.othersScript]
      exact law.pure _
  | cons first others =>
      rw [Rule.othersScript]
      refine law.bind (Rule.script_obeys law obey first bound.1) fun answer _ => ?_
      split
      · exact law.pure _
      · exact Rule.othersScript_obeys law obey connective others bound.2

end

end Laws

theorem Rule.script_total {functions : List Function}
    (answers : ∀ function ∈ functions, function.AnswersScalar) (rule : Rule)
    (bound : rule.BoundTo functions) : rule.script.Total :=
  rule.script_obeys answers_law
    (fun function included => (answers function included).obeys answers_law) bound

end Verdict
