import Verdict.Datum
import Verdict.Json.Reader
import Verdict.Proofs.Number.Equality

/-! Equality of documents and data as equality of canonical forms. The form puts the canonical
number in the place of each decimal of a document and of each number among data. A decimal that is
NaN equals nothing, so the two agree where decimals are in range, as in every document that is
read. -/

set_option autoImplicit false

namespace Verdict

namespace JsonNumber

def canonical : JsonNumber → JsonNumber
  | .whole value => .whole value
  | .decimal value => .decimal value.canonical

theorem same_iff (left right : JsonNumber) (leftInRange : (Json.number left).inRange = true)
    (rightInRange : (Json.number right).inRange = true) :
    left.same right = true ↔ left.canonical = right.canonical := by
  cases left <;> cases right
  case decimal.decimal left right =>
    have leftValued := Number.isNaN_of_isFinite leftInRange
    have rightValued := Number.isNaN_of_isFinite rightInRange
    rw [same, Number.sameValue_iff, canonical, canonical, decimal.injEq, Number.canonical_eq_iff]
    exact ⟨fun equal => equal.2.2, fun equal => ⟨leftValued, rightValued, equal⟩⟩
  all_goals simp [same, canonical]

end JsonNumber

namespace Json

mutual

/-- The document with canonical decimals. -/
def canonical : Json → Json
  | .number value => .number value.canonical
  | .array items => .array (canonicalItems items)
  | .object fields => .object (canonicalFields fields)
  | json => json

def canonicalItems : List Json → List Json
  | [] => []
  | item :: items => canonical item :: canonicalItems items

def canonicalFields : List (String × Json) → List (String × Json)
  | [] => []
  | (key, value) :: fields => (key, canonical value) :: canonicalFields fields

end

mutual

theorem same_iff (left right : Json) (leftInRange : left.inRange = true)
    (rightInRange : right.inRange = true) :
    left.same right = true ↔ left.canonical = right.canonical := by
  cases left <;> cases right
  case number.number left right =>
    simp only [same, canonical, number.injEq]
    exact JsonNumber.same_iff left right leftInRange rightInRange
  case array.array lefts rights =>
    simp only [same, canonical, array.injEq]
    exact sameItems_iff lefts rights leftInRange rightInRange
  case object.object lefts rights =>
    simp only [same, canonical, object.injEq]
    exact sameFields_iff lefts rights leftInRange rightInRange
  all_goals simp [same, canonical]

theorem sameItems_iff (lefts rights : List Json) (leftInRange : itemsInRange lefts = true)
    (rightInRange : itemsInRange rights = true) :
    sameItems lefts rights = true ↔ canonicalItems lefts = canonicalItems rights := by
  cases lefts <;> cases rights
  case cons.cons left lefts right rights =>
    obtain ⟨leftFirst, leftOthers⟩ := Bool.and_eq_true_iff.mp leftInRange
    obtain ⟨rightFirst, rightOthers⟩ := Bool.and_eq_true_iff.mp rightInRange
    rw [sameItems, Bool.and_eq_true, canonicalItems, canonicalItems, List.cons.injEq,
      same_iff left right leftFirst rightFirst,
      sameItems_iff lefts rights leftOthers rightOthers]
  all_goals simp [sameItems, canonicalItems]

theorem sameFields_iff (lefts rights : List (String × Json))
    (leftInRange : fieldsInRange lefts = true) (rightInRange : fieldsInRange rights = true) :
    sameFields lefts rights = true ↔ canonicalFields lefts = canonicalFields rights := by
  cases lefts <;> cases rights
  case cons.cons left lefts right rights =>
    obtain ⟨leftKey, left⟩ := left
    obtain ⟨rightKey, right⟩ := right
    obtain ⟨leftFirst, leftOthers⟩ := Bool.and_eq_true_iff.mp leftInRange
    obtain ⟨rightFirst, rightOthers⟩ := Bool.and_eq_true_iff.mp rightInRange
    rw [sameFields, Bool.and_eq_true, Bool.and_eq_true, canonicalFields, canonicalFields,
      List.cons.injEq, Prod.mk.injEq, beq_iff_eq, same_iff left right leftFirst rightFirst,
      sameFields_iff lefts rights leftOthers rightOthers]
  all_goals simp [sameFields, canonicalFields]

end

theorem insertField_inRange {key : String} {value : Json} {fields : List (String × Json)}
    (valueInRange : value.inRange = true) (inRange : fieldsInRange fields = true) :
    fieldsInRange (insertField key value fields) = true := by
  induction fields with
  | nil => exact Bool.and_eq_true_iff.mpr ⟨valueInRange, rfl⟩
  | cons first others ih =>
      obtain ⟨otherKey, other⟩ := first
      obtain ⟨otherInRange, othersInRange⟩ := Bool.and_eq_true_iff.mp inRange
      rw [insertField]
      split
      · exact Bool.and_eq_true_iff.mpr ⟨valueInRange, othersInRange⟩
      · split
        · exact Bool.and_eq_true_iff.mpr ⟨valueInRange, inRange⟩
        · exact Bool.and_eq_true_iff.mpr ⟨otherInRange, ih othersInRange⟩

mutual

theorem normalized_inRange (json : Json) (inRange : json.inRange = true) :
    json.normalized.inRange = true := by
  cases json with
  | array items => exact normalizedItems_inRange items inRange
  | object fields => exact normalizedFields_inRange fields [] inRange rfl
  | _ => exact inRange

theorem normalizedItems_inRange (items : List Json) (inRange : itemsInRange items = true) :
    itemsInRange (normalizedItems items) = true := by
  cases items with
  | nil => rfl
  | cons first others =>
      obtain ⟨firstInRange, othersInRange⟩ := Bool.and_eq_true_iff.mp inRange
      exact Bool.and_eq_true_iff.mpr
        ⟨normalized_inRange first firstInRange, normalizedItems_inRange others othersInRange⟩

theorem normalizedFields_inRange (fields ordered : List (String × Json))
    (inRange : fieldsInRange fields = true) (orderedInRange : fieldsInRange ordered = true) :
    fieldsInRange (normalizedFields fields ordered) = true := by
  cases fields with
  | nil => exact orderedInRange
  | cons first others =>
      obtain ⟨key, value⟩ := first
      obtain ⟨valueInRange, othersInRange⟩ := Bool.and_eq_true_iff.mp inRange
      exact normalizedFields_inRange others _ othersInRange
        (insertField_inRange (normalized_inRange value valueInRange) orderedInRange)

end

/-- A document that a text stands for is in range. -/
theorem document?_inRange {text : String} {json : Json} (read : document? text = some json) :
    json.inRange = true := by
  unfold document? at read
  cases written : read? text with
  | none => simp [written] at read
  | some value =>
      simp only [written, Option.ite_none_right_eq_some, Option.some.injEq] at read
      obtain ⟨inRange, rfl⟩ := read
      exact normalized_inRange value inRange

end Json

namespace Datum

mutual

/-- Every document among the data is in range. -/
def InRange : Datum → Prop
  | .list items => ItemsInRange items
  | .json value => value.inRange = true
  | _ => True

def ItemsInRange : List Datum → Prop
  | [] => True
  | item :: items => InRange item ∧ ItemsInRange items

end

mutual

theorem ofJson_inRange (json : Json) (inRange : json.inRange = true) : (ofJson json).InRange := by
  cases json with
  | array items => exact ofItems_inRange items inRange
  | object fields => exact inRange
  | _ => trivial

theorem ofItems_inRange (items : List Json) (inRange : Json.itemsInRange items = true) :
    ItemsInRange (ofItems items) := by
  cases items with
  | nil => trivial
  | cons first others =>
      obtain ⟨firstInRange, othersInRange⟩ := Bool.and_eq_true_iff.mp inRange
      exact ⟨ofJson_inRange first firstInRange, ofItems_inRange others othersInRange⟩

end

mutual

/-- The datum with canonical numbers. -/
def canonical : Datum → Datum
  | .number value => .number value.canonical
  | .list items => .list (canonicalItems items)
  | .json value => .json value.canonical
  | datum => datum

def canonicalItems : List Datum → List Datum
  | [] => []
  | item :: items => canonical item :: canonicalItems items

end

mutual

theorem same_iff (left right : Datum) (leftInRange : left.InRange) (rightInRange : right.InRange) :
    left.same right = true ↔ left.canonical = right.canonical := by
  cases left <;> cases right
  case number.number left right =>
    rw [same, beq_iff_eq, canonical, canonical, number.injEq, Number.canonical_eq_iff]
  case list.list lefts rights =>
    simp only [same, canonical, list.injEq]
    exact sameItems_iff lefts rights leftInRange rightInRange
  case json.json left right =>
    simp only [same, canonical, json.injEq]
    exact Json.same_iff left right leftInRange rightInRange
  all_goals simp [same, canonical]

theorem sameItems_iff (lefts rights : List Datum) (leftInRange : ItemsInRange lefts)
    (rightInRange : ItemsInRange rights) :
    sameItems lefts rights = true ↔ canonicalItems lefts = canonicalItems rights := by
  cases lefts <;> cases rights
  case cons.cons left lefts right rights =>
    rw [sameItems, Bool.and_eq_true, canonicalItems, canonicalItems, List.cons.injEq,
      same_iff left right leftInRange.1 rightInRange.1,
      sameItems_iff lefts rights leftInRange.2 rightInRange.2]
  all_goals simp [sameItems, canonicalItems]

end

end Datum

end Verdict
