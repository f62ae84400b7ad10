import Verdict.Proofs.Address.Accessors

/-! The two ways to read an array. A function that takes an operand apart gets the items as scripts,
and whoever explodes a value gets them unresolved. These are the same items. -/

set_option autoImplicit false

namespace Verdict

open Script

theorem Value.operands_eq_map (values : List Value) :
    Value.operands values = values.map Value.operand := by
  induction values with
  | nil => rw [Value.operands, List.map_nil]
  | cons first others ih => rw [Value.operands, List.map_cons, ih]

theorem Value.itemsOfAll_eq_map (values : List Value) :
    Value.itemsOfAll values = values.map Value.items := by
  induction values with
  | nil => rw [Value.itemsOfAll, List.map_nil]
  | cons first others ih => rw [Value.itemsOfAll, List.map_cons, ih]

mutual

/-- The literal that stands for a document value comes to what is in the document. -/
theorem Value.operand_ofJson (json : Json) : (Value.ofJson json).operand = .ofJson json := by
  cases json with
  | array items =>
      rw [Value.ofJson, Value.operand, Operand.ofJson, Value.operands_ofItems items]
  | null => rfl
  | boolean => rfl
  | number => rfl
  | string => rfl
  | object => rfl

theorem Value.operands_ofItems (items : List Json) :
    Value.operands (Value.ofItems items) = Operand.ofItems items := by
  cases items with
  | nil => rw [Value.ofItems, Value.operands, Operand.ofItems]
  | cons item items =>
      rw [Value.ofItems, Value.operands, Operand.ofItems, Value.operand_ofJson item,
        Value.operands_ofItems items]

end

theorem Value.ofItems_eq_map (items : List Json) :
    Value.ofItems items = items.map Value.ofJson := by
  induction items with
  | nil => rw [Value.ofItems, List.map_nil]
  | cons item items ih => rw [Value.ofItems, List.map_cons, ih]

/-- Turns items into the scripts that resolve them. -/
def Value.resolving (items : Script (Option (List Value))) :
    Script (Option (List (Script (Option Datum)))) :=
  items.bind fun items => .done (items.map fun items => items.map fun item => item.operand.datum)

theorem Address.resolve_map {α β : Type} (address : Address) (expected : JsonKind)
    (read : Json → Option α) (image : α → β) :
    ((address.resolve expected read).bind fun value => .done (value.map image)) =
      address.resolve expected fun json => (read json).map image := by
  rw [Address.resolve, Address.resolve, Script.bind]
  congr 1
  funext found
  cases present? found with
  | none => rfl
  | some json =>
      dsimp only
      cases read json with
      | none => rfl
      | some value => rfl

theorem Operand.items_ofAddress (address : Address) :
    (Operand.ofAddress address).items = Value.resolving address.items := by
  rw [Value.resolving, Address.items, Address.resolve_map]
  change address.resolve .array _ = _
  congr 1
  funext json
  rw [Option.map_map]
  congr 1
  funext items
  simp [Value.ofItems_eq_map, Value.operand_ofJson]

theorem answered_map {α β : Type} (members : List α) (image : α → β) (index : Nat) :
    answered (members.map image) index =
      (answered members index).bind fun member => .done (image member) := by
  rw [answered, answered, List.getElem?_map]
  cases members[index]? <;> rfl

mutual

/-- A reply comes to what the value comes to that it stands for. -/
theorem Reply.operand_eq_value (arguments attached : List Value) (reply : Reply) :
    reply.operand (Value.operands arguments) (Value.operands attached) =
      (reply.value arguments attached).bind fun value => .done value.operand := by
  cases reply with
  | array items =>
      rw [Reply.operand, Reply.value, Reply.operands_eq_values arguments attached items, bind_assoc,
        bind_assoc]
      congr 1
  | argument index => rw [Reply.operand, Reply.value, Value.operands_eq_map, answered_map]
  | attached index => rw [Reply.operand, Reply.value, Value.operands_eq_map attached, answered_map]
  | _ => rfl

theorem Reply.operands_eq_values (arguments attached : List Value) (replies : List Reply) :
    Reply.operands (Value.operands arguments) (Value.operands attached) replies =
      (Reply.values arguments attached replies).bind fun values =>
        .done (Value.operands values) := by
  cases replies with
  | nil =>
      rw [Reply.operands, Reply.values, Script.bind, Value.operands]
  | cons first others =>
      rw [Reply.operands, Reply.values, Reply.operand_eq_value arguments attached first,
        Reply.operands_eq_values arguments attached others]
      simp only [Script.bind_assoc, Script.bind, Value.operands]

end

/-- A call comes to what its reply comes to. -/
theorem Call.result_eq_invoke (call : Call) :
    call.result = call.invoke.bind fun value => .done value.operand := by
  obtain ⟨name, arguments, signature, attached, implementation⟩ := call
  rw [result, invoke, bind_assoc]
  congr 1
  funext reply
  exact reply.operand_eq_value arguments attached

theorem Call.items_eq_invoke (call : Call) : call.items = call.invoke.bind Value.items := by
  obtain ⟨name, arguments, signature, attached, implementation⟩ := call
  rw [items, invoke, bind_assoc]
  congr 1
  funext reply
  cases reply with
  | array items =>
      rw [Reply.value, Script.bind_assoc]
      rfl
  | argument index =>
      simp only [Reply.value, Value.itemsOfAll_eq_map, answered_map, Script.bind_assoc]
      rfl
  | attached index =>
      simp only [Reply.value, Value.itemsOfAll_eq_map, answered_map, Script.bind_assoc]
      rfl
  | _ => rfl

theorem Operand.items_ofArray (values : List Value) :
    (Operand.ofArray (Value.operands values)).items = Value.resolving (.done (some values)) := by
  simp [Operand.ofArray, Value.operands_eq_map, Value.resolving, Script.bind, Function.comp_def]

/-- An argument that is answered with is the same argument, whichever way its items are read. -/
theorem Operand.items_answered {values : List Value}
    (same : ∀ value ∈ values, value.operand.items = Value.resolving value.items) (index : Nat) :
    ((answered (Value.operands values) index).bind fun operand => operand.items) =
      Value.resolving ((answered (Value.itemsOfAll values) index).bind id) := by
  rw [Value.operands_eq_map, Value.itemsOfAll_eq_map, answered_map, answered_map]
  cases atIndex : values[index]? with
  | none => simp only [answered, atIndex, Script.bind, Value.resolving]
  | some value =>
      simp only [answered, atIndex, Script.bind]
      exact same value (List.mem_of_getElem? atIndex)

mutual

theorem Value.items_operand (value : Value) :
    value.operand.items = Value.resolving value.items := by
  cases value with
  | array items =>
      rw [Value.operand, Value.items]
      exact Operand.items_ofArray items
  | located role address =>
      rw [Value.operand, Value.items]
      exact Operand.items_ofAddress address
  | computed role dialect call =>
      rw [Value.operand, Value.items, Value.resolving, bind_assoc]
      change Script.bind _ _ = _
      -- Either way the address is computed first, and the ways part at what lives there.
      congr 1
      funext place
      cases place with
      | none => rfl
      | some address => exact Operand.items_ofAddress address
  | called role call =>
      rw [Value.operand, Value.items]
      exact Call.items_result call
  | number => rfl
  | string => rfl
  | boolean => rfl
  | object => rfl

theorem Value.items_operands (values : List Value) :
    ∀ value ∈ values, value.operand.items = Value.resolving value.items := by
  cases values with
  | nil => simp
  | cons first others =>
      exact List.forall_mem_cons.mpr ⟨Value.items_operand first, Value.items_operands others⟩

theorem Call.items_result (call : Call) :
    ((Call.result call).bind fun operand => operand.items) = Value.resolving (Call.items call) := by
  obtain ⟨name, arguments, signature, attached, implementation⟩ := call
  have argumentItems := Value.items_operands arguments
  have attachedItems := Value.items_operands attached
  rw [Call.result, Call.items, Value.resolving, bind_assoc, bind_assoc]
  congr 1
  funext reply
  cases reply with
  | number value => rfl
  | string text => rfl
  | boolean truth => rfl
  | datum value => rfl
  | array items =>
      rw [Reply.operand, Reply.operands_eq_values, bind_assoc, bind_assoc, bind_assoc]
      congr 1
      funext values
      exact Operand.items_ofArray values
  | address place => exact Operand.items_ofAddress place
  | argument index => exact Operand.items_answered argumentItems index
  | attached index => exact Operand.items_answered attachedItems index

end

/-- Flattening an operand flattens the value that it belongs to. -/
theorem Value.flatten_operand (value : Value) (default : List Datum) :
    value.operand.flatten default = value.flatten default := by
  rw [Operand.flatten, Value.items_operand, Value.resolving, bind_assoc, Value.flatten]
  congr 1
  funext items
  cases items with
  | none => rfl
  | some items =>
      simp only [Script.bind, Option.map_some, List.map_map]
      rfl

end Verdict
