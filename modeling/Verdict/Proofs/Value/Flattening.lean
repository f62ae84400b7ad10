import Verdict.Proofs.Session.Conclusions
import Verdict.Proofs.Value.Items

/-! Flattening an array against resolving it as a datum. The first takes the array apart and
resolves its items, the second builds the list of them, and a document is read in two ways; still
both come to the same items and ask the same questions on the way. -/

set_option autoImplicit false

namespace Verdict

open Script

namespace Value

/-- The list of the data that items come to. -/
def gathered (items : List Value) : Script (Option Datum) :=
  (Script.sequence (items.map fun item => item.operand.datum)).bind fun data =>
    .done (some (.list (data.map fun datum => datum.getD .null)))

/-- Wherever the first script ends with the items of an array, the second goes on from there and
gathers them. -/
def Gathers (items : Script (Option (List Value))) (datum : Script (Option Datum)) : Prop :=
  ∀ (setting : Setting) (session after : Session) (found : List Value),
    items.run setting session = (.ok (some found), after) →
    datum.run setting session = (gathered found).run setting after

theorem Gathers.bind {α : Type} {script : Script α} {items : α → Script (Option (List Value))}
    {datum : α → Script (Option Datum)} (gathers : ∀ value, Gathers (items value) (datum value)) :
    Gathers (script.bind items) (script.bind datum) := by
  intro setting session after found comes
  obtain ⟨value, between, first, further⟩ := run_bind_eq_ok_iff.mp comes
  rw [run_bind_of_ok first]
  exact gathers value setting between after found further

theorem Gathers.done (items : List Value) : Gathers (.done (some items)) (gathered items) := by
  rintro setting session after found ⟨rfl⟩
  rfl

/-- What is no array is reported, and no items follow. -/
theorem Gathers.reportMissing (failure : Failure) (datum : Script (Option Datum)) :
    Gathers (.reportMissing failure) datum := by
  intro setting session after found comes
  rw [Script.reportMissing, run_report, Session.conclude] at comes
  cases judged : setting.strategy.judge session.failures failure with
  | none => simp [judged] at comes
  | some error => simp [judged] at comes

theorem Gathers.fail (error : Error) (datum : Script (Option Datum)) :
    Gathers (.fail error) datum := by
  rintro setting session after found ⟨⟩

/-- The literals that stand for the items of a document gather to what the document holds. -/
theorem gathered_ofItems (items : List Json) :
    gathered (ofItems items) = .done (some (.list (Datum.ofItems items))) := by
  have data := Value.sequence_ofItems items
  rw [Value.operands_eq_map, List.map_map] at data
  change Script.sequence ((ofItems items).map fun item => item.operand.datum) = _ at data
  rw [gathered, data, Script.bind, List.map_map]
  simp [Function.comp_def]

theorem Gathers.address (address : Address) :
    Gathers address.items (Operand.ofAddress address).datum := by
  change Gathers ((lookUp address).bind _) ((lookUp address).bind _)
  apply Gathers.bind
  intro found
  cases present? found with
  | none => exact .reportMissing _ _
  | some json =>
      cases json with
      | array items =>
          dsimp only [Json.items?, Option.map_some]
          rw [Datum.ofJson, ← gathered_ofItems]
          exact .done _
      | null => exact .reportMissing _ _
      | boolean => exact .reportMissing _ _
      | number => exact .reportMissing _ _
      | string => exact .reportMissing _ _
      | object => exact .reportMissing _ _

/-- An argument that is answered with gathers as it does on its own. -/
theorem Gathers.ofAnswered {values : List Value}
    (gathers : ∀ value ∈ values, Gathers value.items value.operand.datum) (index : Nat) :
    Gathers ((answered (Value.itemsOfAll values) index).bind id)
      ((answered (Value.operands values) index).bind fun operand => operand.datum) := by
  rw [Value.operands_eq_map, Value.itemsOfAll_eq_map, answered_map, answered_map]
  cases atIndex : values[index]? with
  | none =>
      simp only [answered, atIndex, Script.bind]
      exact .fail _ _
  | some value =>
      simp only [answered, atIndex, Script.bind]
      exact gathers value (List.mem_of_getElem? atIndex)

theorem Gathers.array (items : List Value) : Gathers (.done (some items))
    (Operand.ofArray (Value.operands items)).datum := by
  have gathers := Gathers.done items
  rw [Value.operands_eq_map]
  rwa [gathered, ← Function.comp_def, ← List.map_map] at gathers

end Value

open Value

mutual

theorem Value.items_gather (value : Value) : Gathers value.items value.operand.datum := by
  cases value with
  | array items =>
      rw [Value.items, Value.operand]
      exact .array items
  | located role address =>
      rw [Value.items, Value.operand]
      exact .address address
  | computed role dialect call =>
      rw [Value.items, Value.operand]
      -- Either way the address is computed first, and nothing is found without one.
      change Gathers _ ((Operand.place dialect (Call.result call)).bind _)
      apply Gathers.bind
      intro place
      cases place with
      | none => rintro setting session after found ⟨⟩
      | some address => exact .address address
  | called role call =>
      rw [Value.items, Value.operand]
      exact Call.items_gather call
  | number => exact .reportMissing _ _
  | string => exact .reportMissing _ _
  | boolean => exact .reportMissing _ _
  | object => exact .reportMissing _ _

theorem Value.allItems_gather (values : List Value) :
    ∀ value ∈ values, Gathers value.items value.operand.datum := by
  cases values with
  | nil => simp
  | cons first others =>
      exact List.forall_mem_cons.mpr ⟨Value.items_gather first, Value.allItems_gather others⟩

theorem Call.items_gather (call : Call) :
    Gathers (Call.items call) ((Call.result call).bind fun operand => operand.datum) := by
  obtain ⟨name, arguments, signature, attached, implementation⟩ := call
  have argumentsGather := Value.allItems_gather arguments
  have attachedGather := Value.allItems_gather attached
  rw [Call.items, Call.result, Script.bind_assoc]
  apply Gathers.bind
  intro reply
  cases reply with
  | number value => exact .reportMissing _ _
  | string text => exact .reportMissing _ _
  | boolean truth => exact .reportMissing _ _
  | datum value => exact .reportMissing _ _
  | array items =>
      simp only [Reply.operand, Reply.operands_eq_values, bind_assoc, Script.bind]
      exact .bind fun values => .array values
  | address place => exact .address place
  | argument index => exact .ofAnswered argumentsGather index
  | attached index => exact .ofAnswered attachedGather index

end

/-! ## Items one after another -/

theorem Script.sequence_map {α β γ : Type} (items : List α) (script : α → Script β)
    (image : β → γ) :
    Script.sequence (items.map fun item => (script item).bind fun value => .done (image value)) =
      (Script.sequence (items.map script)).bind fun values => .done (values.map image) := by
  induction items with
  | nil => rfl
  | cons item items ih =>
      rw [List.map_cons, List.map_cons, Script.sequence, Script.sequence, ih, Script.bind_assoc,
        Script.bind_assoc]
      congr 1
      funext value
      rw [Script.bind, Script.bind_assoc, Script.bind_assoc]
      rfl

theorem Script.length_of_sequence {α : Type} {setting : Setting} {session after : Session}
    {scripts : List (Script α)} {values : List α}
    (comes : (Script.sequence scripts).run setting session = (.ok values, after)) :
    scripts.length = values.length := by
  induction scripts generalizing session values with
  | nil =>
      obtain ⟨rfl, -⟩ := comes
      rfl
  | cons script scripts ih =>
      obtain ⟨value, between, -, further⟩ := run_bind_eq_ok_iff.mp comes
      obtain ⟨others, final, behind, ends⟩ := run_bind_eq_ok_iff.mp further
      cases ends
      rw [List.length_cons, List.length_cons, ih behind]

/-- Where a value comes to an array, resolving it as a datum answers with the list of what
flattening it answers with, or fails as that does, and leaves the session as that does. Exploding it
finds the items, one for each datum. -/
theorem Value.resolveDatum_eq_flatten {setting : Setting} {session after : Session} {value : Value}
    {found : List Value} (expands : value.items.run setting session = (.ok (some found), after))
    (default : Datum) (defaults : List Datum) (items : List Value) :
    let flattened := (value.flatten defaults).run setting session
    (value.resolveDatum default).run setting session = (flattened.1.map .list, flattened.2) ∧
      (value.explode items).run setting session = (.ok found, after) ∧
      ∀ data, flattened.1 = .ok data → found.length = data.length := by
  intro flattened
  have flattens : flattened =
      (Script.sequence (found.map fun item => item.resolveDatum .null)).run setting after :=
    run_bind_of_ok expands
  have gathers : (value.resolveDatum default).run setting session =
      ((Script.sequence (found.map fun item => item.resolveDatum .null)).bind fun data =>
        .done (Datum.list data)).run setting after := by
    rw [Value.resolveDatum, Operand.datumOr, run_bind, value.items_gather _ _ _ _ expands,
      ← run_bind, gathered]
    simp only [Value.resolveDatum, Operand.datumOr, Script.sequence_map, Script.bind_assoc]
    rfl
  rw [flattens, gathers, run_bind]
  refine ⟨?_, run_bind_of_ok expands, ?_⟩
  · cases (Script.sequence (found.map fun item => item.resolveDatum .null)).run setting after with
    | mk result final => cases result <;> rfl
  · intro data answered
    have lengths := length_of_sequence (Prod.ext answered rfl)
    rwa [List.length_map] at lengths

/-- The call answers with its argument, the document has no second item, and the first one is read
item by item or as a whole. -/
theorem Value.resolveDatum_eq_flatten_argument :
    let document : Json := .object [("a", .array [.null, .array [.boolean true]])]
    let setting : Setting := ⟨document, .injectDefault, fun _ => .zero⟩
    let data : List Datum := [.list [.null, .list [.boolean true]], .null, .string "x"]
    ∃ (value : Value) (found : List Value) (final : Session),
      value.items.run setting .fresh = (.ok (some found), .fresh) ∧ found.length = data.length ∧
      (value.flatten []).run setting .fresh = (.ok data, final) ∧
      (value.resolveDatum .null).run setting .fresh = (.ok (.list data), final) ∧
      final.misses = 2 ∧ final.failures.length = 1 := by
  intro document setting data
  let present : Value := .located (some .object) (.path ⟨"$.a", [.key "a"], by rfl⟩)
  let absent : Value := .located none (.pointer ⟨"/b", by rfl⟩)
  let items : List Value := [present, absent, .string "x"]
  let value : Value := .called none (.mk "first" [.array items] (.fixed 1) []
    fun _ => .done (.argument 0))
  have expands : value.items.run setting .fresh = (.ok (some items), .fresh) := rfl
  obtain ⟨resolved, -, lengths⟩ := Value.resolveDatum_eq_flatten expands .null [] []
  have flattened : ((value.flatten []).run setting .fresh).1 = .ok data := rfl
  rw [flattened] at resolved
  refine ⟨value, items, ((value.flatten []).run setting .fresh).2, expands, lengths data flattened,
    Prod.ext flattened rfl, resolved, by decide +kernel, by decide +kernel⟩

end Verdict
