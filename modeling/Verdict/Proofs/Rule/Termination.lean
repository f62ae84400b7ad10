import Verdict.Proofs.Value.Termination

/-! Evaluation ends. A rule asks for its operands and nothing else, so it is settled where they are.
The functions that a program has, and those of the standard library, answer as resolution needs. -/

set_option autoImplicit false

namespace Verdict

open Script

section Evaluation

variable (resolve : Value → Operand)

/-- Compares or joins two operands, given how values are resolved. -/
def Operator.scriptBy (operator : Operator) (left right : Value) : Script Bool :=
  let booleans (answer : Bool → Bool → Bool) : Script Bool :=
    ((resolve left).booleanOr false).bind fun first =>
      ((resolve right).booleanOr false).bind fun second => .done (answer first second)
  let data (answer : Datum → Datum → Bool) : Script Bool :=
    ((resolve left).datumOr .null).bind fun first =>
      ((resolve right).datumOr .null).bind fun second => .done (answer first second)
  let numbers (answer : Number → Number → Bool) : Script Bool :=
    ((resolve left).numberOr .zero).bind fun first =>
      ((resolve right).numberOr .zero).bind fun second => .done (answer first second)
  match operator with
  | .both => booleans fun first second => first && second
  | .either => booleans fun first second => first || second
  | .equal => data fun first second => first.same second
  | .notEqual => data fun first second => !first.same second
  | .greater => numbers fun first second => second.less first
  | .greaterEqual => numbers fun first second => second.atMost first
  | .less => numbers fun first second => first.less second
  | .lessEqual => numbers fun first second => first.atMost second

mutual

/-- Evaluates a rule, given how values are resolved. -/
def Rule.scriptBy : Rule → Script Bool
  | .combined connective first others => (Rule.scriptBy first).bind fun answer =>
      if answer = connective.decider then .done answer
      else Rule.othersScriptBy connective others
  | .negation operand => ((resolve operand).booleanOr false).bind fun truth => .done (!truth)
  | .binary operator left right => operator.scriptBy resolve left right

def Rule.othersScriptBy (connective : Connective) : List Rule → Script Bool
  | [] => .done (!connective.decider)
  | member :: members => (Rule.scriptBy member).bind fun answer =>
      if answer = connective.decider then .done answer
      else Rule.othersScriptBy connective members

end

end Evaluation

mutual

def Rule.depth : Rule → Nat
  | .combined _ first others => max (Rule.depth first) (Rule.depthOfAll others)
  | .negation operand => operand.depth
  | .binary _ left right => max left.depth right.depth

def Rule.depthOfAll : List Rule → Nat
  | [] => 0
  | rule :: rules => max (Rule.depth rule) (Rule.depthOfAll rules)

end

mutual

theorem Rule.scriptBy_operand (rule : Rule) : rule.scriptBy Value.operand = rule.script := by
  cases rule with
  | combined connective first others =>
      rw [Rule.scriptBy, Rule.script, Rule.scriptBy_operand first,
        Rule.othersScriptBy_operand connective others]
  | negation operand => rw [Rule.scriptBy, Rule.script, Value.resolveBoolean]
  | binary operator left right =>
      rw [Rule.scriptBy, Rule.script]
      rfl

theorem Rule.othersScriptBy_operand (connective : Connective) (rules : List Rule) :
    Rule.othersScriptBy Value.operand connective rules = Rule.othersScript connective rules := by
  cases rules with
  | nil => rw [Rule.othersScriptBy, Rule.othersScript]
  | cons first others =>
      rw [Rule.othersScriptBy, Rule.othersScript, Rule.scriptBy_operand first,
        Rule.othersScriptBy_operand connective others]

end

section Agreement

variable {functions : List Function} {limit : Nat} {resolve other : Value → Operand}

mutual

theorem Rule.scriptBy_congr
    (agree : ∀ value : Value, value.BoundTo functions → value.depth < limit →
      resolve value = other value) (rule : Rule) (bound : rule.BoundTo functions)
    (shallow : rule.depth < limit) : rule.scriptBy resolve = rule.scriptBy other := by
  cases rule with
  | combined connective first others =>
      obtain ⟨front, behind⟩ := Nat.max_lt.mp shallow
      rw [Rule.scriptBy, Rule.scriptBy, Rule.scriptBy_congr agree first bound.1 front,
        Rule.othersScriptBy_congr agree connective others bound.2 behind]
  | negation operand => rw [Rule.scriptBy, Rule.scriptBy, agree operand bound shallow]
  | binary operator left right =>
      obtain ⟨leftShallow, rightShallow⟩ := Nat.max_lt.mp shallow
      simp only [Rule.scriptBy, Operator.scriptBy, agree left bound.1 leftShallow,
        agree right bound.2 rightShallow]

theorem Rule.othersScriptBy_congr
    (agree : ∀ value : Value, value.BoundTo functions → value.depth < limit →
      resolve value = other value) (connective : Connective) (rules : List Rule)
    (bound : Rule.AllBoundTo functions rules) (shallow : Rule.depthOfAll rules < limit) :
    Rule.othersScriptBy resolve connective rules = Rule.othersScriptBy other connective rules := by
  cases rules with
  | nil => rw [Rule.othersScriptBy, Rule.othersScriptBy]
  | cons first others =>
      obtain ⟨front, behind⟩ := Nat.max_lt.mp shallow
      rw [Rule.othersScriptBy, Rule.othersScriptBy, Rule.scriptBy_congr agree first bound.1 front,
        Rule.othersScriptBy_congr agree connective others bound.2 behind]

end

end Agreement

inductive Value.IsScalar : Value → Prop where
  | number {value : Number} : IsScalar (.number value)
  | string {text : String} : IsScalar (.string text)
  | boolean {truth : Bool} : IsScalar (.boolean truth)

def Function.AttachedCallFree (functions : List Function) : Prop :=
  ∀ function ∈ functions, ∀ overload ∈ function.overloads, ∀ value ∈ overload.attached,
    value.CallFree

section Replies

variable {arguments attached : List Value}

theorem answered_yields {α : Type} {good : α → Prop} {members : List α}
    (holds : ∀ member ∈ members, good member) (index : Nat) :
    (answered members index).Yields good := by
  unfold answered
  split
  · rename_i member atIndex
    exact .done (holds member (List.mem_of_getElem? atIndex))
  · exact .fail

mutual

/-- A reply stands for a value that is built from the arguments. -/
theorem Reply.value_yields (free : ∀ value ∈ attached, value.CallFree) (reply : Reply) :
    (reply.value arguments attached).Yields fun value =>
      value.BuiltFrom fun part => ∃ argument ∈ arguments, part.PartOf argument := by
  cases reply with
  | array items =>
      refine (Reply.values_yield free items).bind fun values built => ?_
      exact .done (.array built)
  | argument index =>
      exact answered_yields (fun argument member => .part ⟨argument, member, .self⟩) index
  | attached index =>
      exact answered_yields (fun value member => .callFree (free value member)) index
  | _ => exact .done (.callFree trivial)

theorem Reply.values_yield (free : ∀ value ∈ attached, value.CallFree) (replies : List Reply) :
    (Reply.values arguments attached replies).Yields fun values => ∀ value ∈ values,
      value.BuiltFrom fun part => ∃ argument ∈ arguments, part.PartOf argument := by
  cases replies with
  | nil => exact .done (by simp)
  | cons first others =>
      refine (Reply.value_yields free first).bind fun value front => ?_
      refine (Reply.values_yield free others).bind fun values behind => ?_
      exact .done (List.forall_mem_cons.mpr ⟨front, behind⟩)

end

end Replies

theorem Call.apply_confined {functions : List Function}
    (attachedFree : Function.AttachedCallFree functions) : Call.apply.Confined functions := by
  rintro ⟨name, arguments, signature, attached, implementation⟩ bound
  obtain ⟨⟨function, included, -, resolved⟩, -⟩ := bound
  have free := attachedFree function included _ (Function.accepts_of_resolve resolved).1
  constructor
  case own =>
    intro view other alike
    have operands : (arguments.map fun argument => (view argument).operand) =
        arguments.map fun argument => (other argument).operand := by
      apply List.map_congr_left
      intro argument member
      rw [(alike argument (.part ⟨argument, member, .self⟩)).1]
    rw [apply, apply, operands]
  case answers =>
    intro view _
    exact (Yields.trivial _).bind fun reply _ => reply.value_yields free

theorem Operand.obeys_yields (operand : Operand) :
    operand.Obeys fun _ good script => script.Yields good where
  string := .trivial _
  number := .trivial _
  boolean := .trivial _
  datum := .trivial _
  items := .of_forall (fun _ _ _ _ _ => .trivial _) _
  pathText := .trivial _
  pointerText := .trivial _

theorem Library.standard_attachedCallFree :
    Function.AttachedCallFree standard.functions := by
  intro function included overload member value attached
  rw [(standard_obeysScalar yields_law function included overload member).plain] at attached
  cases attached

theorem Library.standard_apply {holds : Script.Property} (law : Law holds) {call : Call}
    (bound : call.BoundTo standard.functions) {view : Value → View}
    (obey : ∀ argument ∈ call.arguments, (view argument).operand.Obeys holds) :
    holds Value Value.IsScalar (call.apply view) := by
  obtain ⟨name, arguments, signature, attached, implementation⟩ := call
  obtain ⟨⟨function, included, -, resolved⟩, -⟩ := bound
  obtain ⟨member, accepted⟩ := Function.accepts_of_resolve resolved
  have answers := standard_obeysScalar law function included _ member
  refine law.bind (answers.replies (arguments.map fun argument => (view argument).operand) ?_ ?_)
    fun reply scalar => ?_
  · rwa [List.length_map]
  · exact List.forall_mem_map.mpr obey
  · cases scalar with
    | number => exact law.done .number
    | string => exact law.done .string
    | boolean => exact law.done .boolean

/-- Resolution by rounds ends with a view. What values and rules come to is settled after more
rounds than they are deep, and no more results are followed one after another than a value is
deep. -/
structure Application.Terminates (functions : List Function) (apply : Application)
    (view : Value → View) : Prop where
  values : ∀ value : Value, value.BoundTo functions →
    ∀ beyond limit, value.depth < limit → (Value.round apply)^[limit] beyond value = view value
  rules : ∀ rule : Rule, rule.BoundTo functions → ∀ beyond limit, rule.depth < limit →
    (rule.scriptBy fun value => ((Value.round apply)^[limit] beyond value).operand) =
      rule.scriptBy fun value => (view value).operand
  chases : ∀ value : Value, value.BoundTo functions → ∀ setting session results,
    value.Chases apply view setting session results → results.length ≤ value.depth

theorem View.Solves.terminates {functions : List Function} {apply : Application}
    {view : Value → View} (confined : apply.Confined functions)
    (solves : View.Solves functions apply view) : apply.Terminates functions view := by
  have values : ∀ value : Value, value.BoundTo functions → ∀ beyond limit, value.depth < limit →
      (Value.round apply)^[limit] beyond value = view value := by
    intro value bound beyond limit shallow
    exact (solves.agree confined beyond limit value ⟨bound, shallow⟩).1
  refine ⟨values, ?_, fun value bound setting session results chases =>
    chases.length_le confined (solves.opens confined) bound⟩
  intro rule bound beyond limit shallow
  refine Rule.scriptBy_congr (fun value valueBound valueShallow => ?_) rule bound shallow
  rw [values value valueBound beyond limit valueShallow]

/-- Where calls are confined to what they own, resolution and evaluation end. The calls of a program
are if nothing with a call in it is attached to its functions, and resolution ends with what values
come to. Nothing is attached to standard functions, which always answer with scalars. -/
theorem resolution_terminates :
    (∀ (functions : List Function) (apply : Application), apply.Confined functions →
      (∃ view, View.Solves functions apply view) ∧
      ∀ view, View.Solves functions apply view → apply.Terminates functions view) ∧
    (∀ functions : List Function, Function.AttachedCallFree functions →
      Call.apply.Confined functions ∧ View.Solves functions Call.apply Value.view ∧
      Call.apply.Terminates functions Value.view ∧
      ∀ rule : Rule, (rule.scriptBy fun value => value.view.operand) = rule.script) ∧
    Function.AttachedCallFree Registry.standard.functions ∧
    ∀ call : Call, call.BoundTo Registry.standard.functions →
      (∀ view, (call.apply view).Yields Value.IsScalar) ∧
      (call.apply Value.view).Answers Value.IsScalar := by
  refine ⟨fun functions apply confined => ?_, fun functions attachedFree => ?_, ?_, ?_⟩
  · exact ⟨View.exists_solves confined, fun view solves => solves.terminates confined⟩
  · have confined := Call.apply_confined attachedFree
    have solves : View.Solves functions Call.apply Value.view :=
      fun value _ => value.view_eq_round
    exact ⟨confined, solves, solves.terminates confined, Rule.scriptBy_operand⟩
  · exact Library.standard_attachedCallFree
  · intro call bound
    refine ⟨fun view => ?_, ?_⟩
    · exact Library.standard_apply yields_law bound fun argument _ =>
        (view argument).operand.obeys_yields
    · refine Library.standard_apply answers_law bound fun argument member => ?_
      exact argument.operand_obeys answers_law (Library.standard_obeys answers_law)
        (bound.arguments argument member)

/-- Counts the items of the first argument that are true. Items are values that the call comes upon
while it is applied. -/
def Call.tally : Application := fun view call =>
  match call.arguments with
  | [] => .fail (noArgument 0)
  | argument :: _ => (view argument).items.bind fun found =>
      (Script.sequence ((found.getD []).map fun item =>
        (view item).operand.booleanOr false)).bind fun truths =>
          .done (.number (.ofNat (truths.countP id)))

theorem Call.tally_confined (call : Call) : call.Confined Call.tally := by
  constructor
  case own =>
    intro view other alike
    unfold tally
    cases same : call.arguments with
    | nil => rfl
    | cons argument others =>
        have owns (part : Value) (stands : part.PartOf argument) :
            ∃ argument ∈ call.arguments, part.PartOf argument :=
          ⟨argument, by simp [same], stands⟩
        obtain ⟨viewed, opens⟩ := alike argument (.part (owns _ .self))
        dsimp only
        rw [← viewed]
        refine opens.bind_congr fun found parts => ?_
        congr 2
        apply List.map_congr_left
        intro item member
        cases found with
        | none => simp at member
        | some items =>
            have built := parts items rfl item member
            rw [(alike item (built.mono owns)).1]
  case answers =>
    intro view _
    unfold tally
    split
    · exact .fail
    · refine (Yields.trivial _).bind fun _ _ => ?_
      refine (Yields.trivial _).bind fun _ _ => ?_
      exact .done (.callFree trivial)

/-- Three calls each answer with their argument, and as many results are followed. Nor does it
matter if a call takes its argument apart. -/
theorem resolution_terminates_nested :
    let functions : List Function := [⟨"first", [.argument (.fixed 1) 0]⟩]
    let setting : Setting := ⟨.null, .strict, fun _ => .zero⟩
    (∃ view, View.Solves functions Call.tally view ∧ Call.tally.Terminates functions view) ∧
    ∃ (value : Value) (results : List Value),
      value.BoundTo functions ∧ value.depth = 3 ∧ results.length = 3 ∧
      value.Chases Call.apply Value.view setting .fresh results ∧
      ∀ beyond, ((Rule.negation value).scriptBy fun value =>
        ((Value.round Call.apply)^[4] beyond value).operand) = .done false := by
  intro functions setting
  obtain ⟨⟨view, solves⟩, terminates⟩ :=
    resolution_terminates.1 functions Call.tally fun call _ => call.tally_confined
  refine ⟨⟨view, solves, terminates view solves⟩, ?_⟩
  let first (argument : Value) : Call :=
    .mk "first" [argument] (.fixed 1) [] fun _ => .done (.argument 0)
  let truth : Value := .boolean true
  let once : Value := .called none (first truth)
  let twice : Value := .called none (first once)
  let value : Value := .called none (first twice)
  have resolved : ∃ function ∈ functions, function.name = "first" ∧
      function.resolve 1 = .ok ⟨.fixed 1, [], fun _ => .done (.argument 0)⟩ :=
    ⟨_, List.mem_singleton_self _, rfl, rfl⟩
  have bound : value.BoundTo functions :=
    ⟨resolved, ⟨resolved, ⟨resolved, trivial, trivial⟩, trivial⟩, trivial⟩
  have attachedFree : Function.AttachedCallFree functions := by
    simp [Function.AttachedCallFree, functions, Overload.argument]
  obtain ⟨-, -, terminates, -⟩ := resolution_terminates.2.1 functions attachedFree
  refine ⟨value, [twice, once, truth], bound, rfl, rfl, ?_, ?_⟩
  · exact .result rfl rfl (.result rfl rfl (.result rfl rfl .rest))
  · intro beyond
    rw [terminates.rules (.negation value) bound beyond 4 (by decide)]
    rfl

end Verdict
