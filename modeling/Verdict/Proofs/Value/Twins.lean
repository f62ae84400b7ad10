import Verdict.Proofs.Session.Twins
import Verdict.Proofs.Value.Items
import Verdict.Proofs.Value.Laws

/-! Operands on documents that differ in how numbers are stored. No scalar tells such documents
apart, nor does the length of an array. A datum may, and so may the items of an array, if there are
objects among them. -/

set_option autoImplicit false

namespace Verdict

open Script

namespace Operand

/-- What functions ask of an operand comes to the same on both documents. -/
abbrev Alike (twins : Twins) (whole : Bool) (operand : Operand) : Prop :=
  operand.Serves (fun _ good script => script.Agrees twins good) whole

variable {twins : Twins} {whole : Bool}

theorem ofArray_alike {items : List Operand}
    (alike : whole = true → ∀ item ∈ items, item.Alike twins true) :
    (ofArray items).Alike twins whole where
  string := Agrees.steps.reportIllegal _
  number := Agrees.steps.reportIllegal _
  boolean := Agrees.steps.reportIllegal _
  pathText := Agrees.steps.reportIllegal _
  pointerText := Agrees.steps.reportIllegal _
  count := .done trivial
  datum := by
    intro weighed
    refine Agrees.steps.map (Agrees.steps.sequence fun script member => ?_) fun _ _ => trivial
    obtain ⟨item, included, rfl⟩ := List.mem_map.mp member
    exact (alike weighed item included).datum rfl
  members := by
    intro weighed default
    refine Agrees.steps.sequence fun script member => ?_
    obtain ⟨_, listed, rfl⟩ := List.mem_map.mp member
    obtain ⟨item, included, rfl⟩ := List.mem_map.mp listed
    exact Agrees.steps.map ((alike weighed item included).datum rfl) fun _ _ => trivial

theorem items?_eq_of_ofJson {left right : Json} (same : Datum.ofJson left = Datum.ofJson right) :
    left.items?.map Datum.ofItems = right.items?.map Datum.ofItems := by
  cases left <;> cases right
  case array.array lefts rights => exact congrArg some (Datum.list.inj same)
  all_goals first | rfl | cases same

theorem length_ofAddress (address : Address) :
    ((ofAddress address).items.bind fun items => .done (items.getD []).length) =
      (address.resolve .array fun json => json.items?.map List.length).bind fun count =>
        .done (count.getD 0) := by
  have scripts := address.resolve_map .array Json.items? fun items =>
    items.map fun item => (ofJson item).datum
  have lengths := address.resolve_map .array Json.items? List.length
  rw [← lengths, Script.bind_assoc]
  change (address.resolve .array fun json => json.items?.map fun items =>
    items.map fun item => (ofJson item).datum).bind _ = _
  rw [← scripts, Script.bind_assoc]
  congr 1
  funext items
  cases items <;> simp [Script.bind]

/-- The items at an address are literals, so what is read there decides what they come to. -/
theorem flatten_ofAddress (address : Address) (default : List Datum) :
    (ofAddress address).flatten default =
      (address.resolve .array fun json => json.items?.map Datum.ofItems).bind fun data =>
        .done (data.getD default) := by
  have flattened := Value.flatten_operand (.located none address) default
  rw [Value.operand] at flattened
  rw [flattened, Value.flatten, Value.items, Address.items, ← Address.resolve_map,
    ← Address.resolve_map, Script.bind_assoc, Script.bind_assoc]
  congr 1
  funext items
  cases items with
  | none => rfl
  | some items => exact Value.sequence_resolveDatum items

theorem ofAddress_alike {address : Address} (keeps : whole = true → twins.Keeps address) :
    (ofAddress address).Alike twins whole := by
  have reading {α : Type} {expected : JsonKind} {read : Json → Option α}
      (reads : ∀ left ∈ address.locate twins.first, ∀ right ∈ address.locate twins.second,
        left.widened = right.widened → read left = read right) :
      (address.resolve expected read).Agrees twins fun _ => True :=
    .resolve reads trivial fun _ _ _ => trivial
  have scalar {α : Type} {expected : JsonKind} {read : Json → Option α}
      (widened : ∀ json, read json.widened = read json) :
      (address.resolve expected read).Agrees twins fun _ => True :=
    reading fun left _ right _ same => by rw [← widened left, same, widened right]
  have kept (weighed : whole = true) (left : Json) (first : left ∈ address.locate twins.first)
      (right : Json) (second : right ∈ address.locate twins.second)
      (same : left.widened = right.widened) : Datum.ofJson left = Datum.ofJson right := by
    have objects := keeps weighed
    rw [Twins.Keeps, first, second] at objects
    exact Datum.ofJson_eq_of_widened left right same (Option.some.inj objects)
  have text : (address.resolve .string Json.string?).Agrees twins fun _ => True :=
    scalar Json.string?_widened
  have datum (weighed : whole = true) :
      (address.resolve .object fun json => some (Datum.ofJson json)).Agrees twins fun _ => True :=
    reading fun left first right second same => by
      rw [kept weighed left first right second same]
  have members (weighed : whole = true) :
      (address.resolve .array fun json => json.items?.map Datum.ofItems).Agrees twins
        fun _ => True :=
    reading fun left first right second same =>
      items?_eq_of_ofJson (kept weighed left first right second same)
  exact {
    string := text
    number := scalar Json.number?_widened
    boolean := scalar Json.boolean?_widened
    pathText := by
      cases address with
      | path place => exact .done trivial
      | pointer place => exact text
    pointerText := by
      cases address with
      | path place => exact text
      | pointer place => exact .done trivial
    count := by
      rw [length_ofAddress]
      refine Agrees.steps.map (scalar fun json => ?_) fun _ _ => trivial
      rw [json.items?_widened, Option.map_map]
      simp [Function.comp_def]
    datum := datum
    members := by
      intro weighed default
      rw [flatten_ofAddress]
      exact Agrees.steps.map (members weighed) fun _ _ => trivial }

/-- A computed address is alike if the objects at the address that it settles on are the same. -/
theorem computed_alike {dialect : Dialect} {result : Script Operand}
    (obeys : result.Agrees twins (Obeys fun _ good script => script.Agrees twins good))
    (keeps : whole = true → ∀ address,
      (place dialect result).settled twins.first twins.clock = .ok (some address) →
      twins.Keeps address) :
    (computed dialect result).Alike twins whole := by
  have through {α : Type} {next : Option Address → Script α}
      (missing : (next none).Agrees twins fun _ => True)
      (found : ∀ address, (ofAddress address).Alike twins whole →
        (next (some address)).Agrees twins fun _ => True) :
      ((place dialect result).bind next).Agrees twins fun _ => True := by
    have placed : (place dialect result).Agrees twins fun _ => True :=
      place_obeys Agrees.steps obeys
    -- What the address is asked for depends on which one it is, so it is fixed first.
    refine placed.settles.bind fun place settled => ?_
    cases place with
    | none => exact missing
    | some address =>
        exact found address (ofAddress_alike fun weighed => keeps weighed address settled.2)
  have text : (chased result).string.Agrees twins fun _ => True :=
    (chased_obeys Agrees.steps obeys).string
  exact {
    string := through (.done trivial) fun _ alike => alike.string
    number := through (.done trivial) fun _ alike => alike.number
    boolean := through (.done trivial) fun _ alike => alike.boolean
    pathText := by
      cases dialect with
      | path => exact text
      | pointer => exact through (.done trivial) fun _ alike => alike.string
    pointerText := by
      cases dialect with
      | path => exact through (.done trivial) fun _ alike => alike.string
      | pointer => exact text
    count := by
      simp only [computed, Script.bind_assoc]
      exact through (.done trivial) fun _ alike => alike.count
    datum := fun weighed => through (.done trivial) fun _ alike => alike.datum weighed
    members := by
      intro weighed default
      simp only [flatten, computed, Script.bind_assoc]
      exact through (.done trivial) fun _ alike => alike.members weighed default }

end Operand

end Verdict
