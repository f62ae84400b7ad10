import Verdict.Value.Resolution

/-! How numbers are stored in a document. Widening a document stores all of its numbers as decimals.
It changes neither what addresses lead to nor what is read there as a scalar; data keep the storage
of numbers inside of objects alone. -/

set_option autoImplicit false

namespace Verdict

namespace JsonNumber

def widened (number : JsonNumber) : JsonNumber := .decimal number.toNumber

end JsonNumber

namespace Json

mutual

/-- The document with every number as a decimal. Documents have the same widened form if they are
the same except for how their numbers are stored. -/
def widened : Json → Json
  | .number value => .number value.widened
  | .array items => .array (itemsWidened items)
  | .object fields => .object (fieldsWidened fields)
  | json => json

def itemsWidened : List Json → List Json
  | [] => []
  | item :: items => widened item :: itemsWidened items

def fieldsWidened : List (String × Json) → List (String × Json)
  | [] => []
  | (key, value) :: fields => (key, widened value) :: fieldsWidened fields

end

mutual

/-- The objects that a value comes to: the object itself, or those among the items of an array. What
stands inside of objects is left to them. -/
def objects : Json → List (List (String × Json))
  | .array items => itemObjects items
  | .object fields => [fields]
  | _ => []

def itemObjects : List Json → List (List (String × Json))
  | [] => []
  | item :: items => objects item ++ itemObjects items

end

theorem itemsWidened_eq_map (items : List Json) : itemsWidened items = items.map widened := by
  induction items with
  | nil => rfl
  | cons item items ih => rw [itemsWidened, ih, List.map_cons]

theorem lookup_fieldsWidened (key : String) (fields : List (String × Json)) :
    (fieldsWidened fields).lookup key = (fields.lookup key).map widened := by
  induction fields with
  | nil => rfl
  | cons field fields ih =>
      obtain ⟨name, value⟩ := field
      rw [fieldsWidened, List.lookup_cons, List.lookup_cons]
      cases key == name with
      | true => rfl
      | false => exact ih

section Reading

variable (json : Json)

theorem kind_widened : json.widened.kind = json.kind := by
  cases json <;> rfl

theorem string?_widened : json.widened.string? = json.string? := by
  cases json <;> rfl

theorem number?_widened : json.widened.number? = json.number? := by
  cases json <;> rfl

theorem boolean?_widened : json.widened.boolean? = json.boolean? := by
  cases json <;> rfl

theorem items?_widened : json.widened.items? = json.items?.map fun items => items.map widened := by
  cases json with
  | array items => exact congrArg some (itemsWidened_eq_map items)
  | _ => rfl

end Reading

theorem present?_map_widened (found : Option Json) :
    present? (found.map widened) = (present? found).map widened := by
  cases found with
  | none => rfl
  | some json => cases json <;> rfl

mutual

theorem length_objects_widened (json : Json) :
    json.widened.objects.length = json.objects.length := by
  cases json with
  | array items => exact length_itemObjects_widened items
  | _ => rfl

theorem length_itemObjects_widened (items : List Json) :
    (itemObjects (itemsWidened items)).length = (itemObjects items).length := by
  cases items with
  | nil => rfl
  | cons item items =>
      simp only [itemsWidened, itemObjects, List.length_append]
      rw [length_objects_widened item, length_itemObjects_widened items]

end

end Json

section Locating

open Json

theorem PathStep.follow_widened (step : PathStep) (json : Json) :
    step.follow json.widened = (step.follow json).map widened := by
  cases json with
  | array items =>
      cases step with
      | key name => rfl
      | index position =>
          simp only [follow, widened, itemsWidened_eq_map, List.length_map, List.getElem?_map]
          rw [apply_ite (Option.map widened)]
          rfl
  | object fields =>
      cases step with
      | key name => exact lookup_fieldsWidened name fields
      | index position => rfl
  | _ => cases step <;> rfl

theorem Pointer.follow_widened (json : Json) (token : List Char) :
    follow json.widened token = (follow json token).map widened := by
  cases json with
  | array items =>
      simp only [follow, widened, itemsWidened_eq_map]
      cases index? token with
      | none => rfl
      | some index => exact List.getElem?_map ..
  | object fields => exact lookup_fieldsWidened _ fields
  | _ => rfl

theorem foldlM_widened {α : Type} {follow : Json → α → Option Json}
    (step : ∀ json place, follow json.widened place = (follow json place).map widened)
    (places : List α) (json : Json) :
    places.foldlM follow json.widened = (places.foldlM follow json).map widened := by
  induction places generalizing json with
  | nil => rfl
  | cons place places ih =>
      rw [List.foldlM_cons, List.foldlM_cons, step]
      cases follow json place with
      | none => rfl
      | some next => exact ih next

/-- An address leads to the same in a widened document, widened. -/
theorem Address.locate_widened (address : Address) (document : Json) :
    address.locate document.widened = (address.locate document).map widened := by
  cases address with
  | path place => exact foldlM_widened (fun json step => step.follow_widened json) _ document
  | pointer place => exact foldlM_widened Pointer.follow_widened _ document

end Locating

namespace Datum

open Json

mutual

/-- Values of one widened form come to the same datum if the objects that they come to are the same:
outside of objects a datum does not keep how numbers are stored. -/
theorem ofJson_eq_of_widened (left right : Json) (same : left.widened = right.widened)
    (objects : left.objects = right.objects) : ofJson left = ofJson right := by
  cases left <;> cases right
  case null.null => rfl
  case boolean.boolean => exact congrArg ofJson same
  case string.string => exact congrArg ofJson same
  case number.number left right =>
    have numbers : left.toNumber = right.toNumber := by
      simpa [widened, JsonNumber.widened] using same
    rw [ofJson, ofJson, numbers]
  case array.array lefts rights =>
    have items : itemsWidened lefts = itemsWidened rights := by simpa [widened] using same
    rw [ofJson, ofJson, ofItems_eq_of_widened lefts rights items objects]
  case object.object lefts rights =>
    rw [List.singleton_inj.mp objects]
  all_goals simp [widened] at same

theorem ofItems_eq_of_widened (lefts rights : List Json)
    (same : itemsWidened lefts = itemsWidened rights)
    (objects : itemObjects lefts = itemObjects rights) : ofItems lefts = ofItems rights := by
  cases lefts <;> cases rights
  case nil.nil => rfl
  case cons.cons left lefts right rights =>
    obtain ⟨first, others⟩ := List.cons.inj same
    -- The first items come to equally many objects, so the two lists of objects part at one place.
    have counts : left.objects.length = right.objects.length := by
      rw [← length_objects_widened left, first, length_objects_widened right]
    obtain ⟨front, behind⟩ := List.append_inj objects counts
    rw [ofItems, ofItems, ofJson_eq_of_widened left right first front,
      ofItems_eq_of_widened lefts rights others behind]
  all_goals simp [itemsWidened] at same

end

end Datum

end Verdict
