import Verdict.Proofs.Value.Items

/-! Resolution as it goes about calls: it applies a call and then resolves the value that came of
it, which is no part of the call. One round of this says what a value comes to, given what the
results of calls come to. What values come to is a solution. -/

set_option autoImplicit false

namespace Verdict

open Script

/-- What is made of a value: what it comes to in every role, and its items unresolved. -/
structure View where
  operand : Operand
  items : Script (Option (List Value))

/-- How calls are applied, given how values are resolved. -/
abbrev Application : Type := (Value → View) → Call → Script Value

/-- The call that a value comes to through its result. -/
def Value.call? : Value → Option Call
  | .computed _ _ call => some call
  | .called _ call => some call
  | _ => none

def Operand.placeItems (dialect : Dialect) (result : Script Operand) :
    Script (Option (List Value)) :=
  (place dialect result).bind fun place =>
    match place with
    | none => .done none
    | some address => address.items

section Round

variable (apply : Application) (view : Value → View)

def Call.chased {α : Type} (call : Call) (next : View → Script α) : Script α :=
  (apply view call).bind fun result => next (view result)

mutual

/-- What is made of a value by one round: the results of calls are viewed as before. -/
def Value.round : Value → View
  | .number value => ⟨.ofNumber value, .reportIllegal (.unresolvable .numeric .array)⟩
  | .string text => ⟨.ofString text, .reportIllegal (.unresolvable .string .array)⟩
  | .boolean truth => ⟨.ofBoolean truth, .reportIllegal (.unresolvable .boolean .array)⟩
  | .array items => ⟨.ofArray (Value.roundAll items), .done (some items)⟩
  | .object value => ⟨.ofDatum value, .reportIllegal (.unresolvable .object .array)⟩
  | .located _ address => ⟨.ofAddress address, address.items⟩
  | .computed _ dialect call =>
      let result := call.chased apply view fun result => .done result.operand
      ⟨.computed dialect result, Operand.placeItems dialect result⟩
  | .called _ call =>
      ⟨.chased (call.chased apply view fun result => .done result.operand),
        call.chased apply view View.items⟩

def Value.roundAll : List Value → List Operand
  | [] => []
  | value :: values => (Value.round value).operand :: Value.roundAll values

end

end Round

def Value.view (value : Value) : View := ⟨value.operand, value.items⟩

/-- Calls are applied by their implementation, which sees the arguments as operands. -/
def Call.apply : Application
  | view, .mk _ arguments _ attached implementation =>
      (implementation (arguments.map fun argument => (view argument).operand)).bind
        (Reply.value arguments attached)

namespace Call

theorem apply_view (call : Call) : call.apply Value.view = call.invoke := by
  obtain ⟨name, arguments, signature, attached, implementation⟩ := call
  rw [apply, invoke, Value.operands_eq_map]
  rfl

theorem result_eq_chased (call : Call) :
    Call.result call = call.chased apply Value.view fun result => .done result.operand := by
  rw [chased, apply_view, result_eq_invoke]
  rfl

theorem items_eq_chased (call : Call) :
    Call.items call = call.chased apply Value.view View.items := by
  rw [chased, apply_view, items_eq_invoke]
  rfl

end Call

mutual

/-- What a value comes to is what a round makes of what the results of calls come to. -/
theorem Value.view_eq_round (value : Value) :
    value.view = Value.round Call.apply Value.view value := by
  cases value with
  | array items =>
      rw [Value.round, ← Value.operands_eq_roundAll items, Value.view, Value.operand, Value.items]
  | computed role dialect call =>
      rw [Value.round, ← Call.result_eq_chased, Value.view, Value.operand, Value.items]
      rfl
  | called role call =>
      rw [Value.round, ← Call.result_eq_chased, ← Call.items_eq_chased, Value.view, Value.operand,
        Value.items]
  | _ => rfl

theorem Value.operands_eq_roundAll (values : List Value) :
    Value.operands values = Value.roundAll Call.apply Value.view values := by
  cases values with
  | nil => rfl
  | cons first others =>
      rw [Value.operands, Value.roundAll, ← Value.view_eq_round first,
        ← Value.operands_eq_roundAll others]
      rfl

end

end Verdict
