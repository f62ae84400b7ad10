import Verdict.Proofs.Script.Laws

/-! An operand obeys a law of scripts if what is asked in resolving it obeys the law, in every role.
Literals and addresses obey every law, and a call as far as its reply does. -/

set_option autoImplicit false

namespace Verdict

namespace Operand

/-- The property holds of what functions and operators ask of the operand. Only few of them weigh it
as a whole and ask for the datum or for all items of an array as data. -/
structure Serves (holds : Script.Property) (whole : Bool) (operand : Operand) : Prop where
  string : holds _ (fun _ => True) operand.string
  number : holds _ (fun _ => True) operand.number
  boolean : holds _ (fun _ => True) operand.boolean
  pathText : holds _ (fun _ => True) operand.pathText
  pointerText : holds _ (fun _ => True) operand.pointerText
  count : holds _ (fun _ => True)
    (operand.items.bind fun items => .done (items.getD []).length)
  datum : whole = true → holds _ (fun _ => True) operand.datum
  members : whole = true → ∀ default, holds _ (fun _ => True) (operand.flatten default)

/-- The law holds of the operand in every role. -/
structure Obeys (holds : Script.Property) (operand : Operand) : Prop where
  string : holds _ (fun _ => True) operand.string
  number : holds _ (fun _ => True) operand.number
  boolean : holds _ (fun _ => True) operand.boolean
  datum : holds _ (fun _ => True) operand.datum
  items : holds _ (fun items => ∀ scripts ∈ items, ∀ script ∈ scripts,
    holds _ (fun _ => True) script) operand.items
  pathText : holds _ (fun _ => True) operand.pathText
  pointerText : holds _ (fun _ => True) operand.pointerText

variable {holds : Script.Property}

theorem scalar_obeys (steps : Script.Steps holds) (kind : NodeKind) (string : Option String)
    (number : Option Number) (boolean : Option Bool) (datum : Datum) :
    (scalar kind string number boolean datum).Obeys holds := by
  have text : holds _ (fun _ => True) (scalar kind string number boolean datum).string := by
    cases string with
    | none => exact steps.reportIllegal _
    | some text => exact steps.pure _
  exact {
    string := text
    number := by
      cases number with
      | none => exact steps.reportIllegal _
      | some value => exact steps.pure _
    boolean := by
      cases boolean with
      | none => exact steps.reportIllegal _
      | some truth => exact steps.pure _
    datum := steps.pure _
    items := steps.illegal (steps.done (by simp))
    pathText := text
    pointerText := text }

theorem ofArray_obeys (steps : Script.Steps holds) {items : List Operand}
    (obey : ∀ item ∈ items, item.Obeys holds) : (ofArray items).Obeys holds := by
  have scripts : ∀ script ∈ items.map fun item => item.datum,
      holds _ (fun _ => True) script := by
    intro script member
    obtain ⟨item, included, rfl⟩ := List.mem_map.mp member
    exact (obey item included).datum
  exact {
    string := steps.reportIllegal _
    number := steps.reportIllegal _
    boolean := steps.reportIllegal _
    datum := steps.map (steps.sequence scripts) fun _ _ => trivial
    items := steps.done (by simpa using scripts)
    pathText := steps.reportIllegal _
    pointerText := steps.reportIllegal _ }

mutual

theorem ofJson_obeys (steps : Script.Steps holds) (json : Json) : (ofJson json).Obeys holds := by
  cases json with
  | array items =>
      rw [ofJson]
      exact ofArray_obeys steps (ofItems_obey steps items)
  | _ =>
      rw [ofJson]
      exact scalar_obeys steps _ _ _ _ _

theorem ofItems_obey (steps : Script.Steps holds) (items : List Json) :
    ∀ item ∈ ofItems items, item.Obeys holds := by
  cases items with
  | nil => simp [ofItems]
  | cons first others =>
      rw [ofItems]
      exact List.forall_mem_cons.mpr ⟨ofJson_obeys steps first, ofItems_obey steps others⟩

end

section Steps

variable (steps : Script.Steps holds)

include steps

theorem chased_obeys {result : Script Operand} (obeys : holds _ (Obeys holds) result) :
    (chased result).Obeys holds where
  string := steps.bind obeys fun _ operand => operand.string
  number := steps.bind obeys fun _ operand => operand.number
  boolean := steps.bind obeys fun _ operand => operand.boolean
  datum := steps.bind obeys fun _ operand => operand.datum
  items := steps.bind obeys fun _ operand => operand.items
  pathText := steps.bind obeys fun _ operand => operand.string
  pointerText := steps.bind obeys fun _ operand => operand.string

theorem place_obeys {dialect : Dialect} {result : Script Operand}
    (obeys : holds _ (Obeys holds) result) :
    holds _ (fun _ => True) (place dialect result) := by
  refine steps.bind (chased_obeys steps obeys).string fun text _ => ?_
  cases text with
  | none => exact steps.pure _
  | some text =>
      dsimp only
      split
      · exact steps.pure _
      · exact steps.reportIllegal _

/-- What obeys a law serves all functions. -/
theorem Obeys.serves {operand : Operand} (obeys : operand.Obeys holds) (whole : Bool) :
    operand.Serves holds whole where
  string := obeys.string
  number := obeys.number
  boolean := obeys.boolean
  pathText := obeys.pathText
  pointerText := obeys.pointerText
  count := steps.map obeys.items fun _ _ => trivial
  datum := fun _ => obeys.datum
  members := by
    intro _ default
    refine steps.bind obeys.items fun items itemsObey => ?_
    cases items with
    | none => exact steps.pure _
    | some scripts =>
        apply steps.sequence
        intro script member
        obtain ⟨item, included, rfl⟩ := List.mem_map.mp member
        exact steps.map (itemsObey scripts rfl item included) fun _ _ => trivial

namespace Serves

variable {whole : Bool} {operand : Operand}

theorem stringOr (serves : operand.Serves holds whole) (default : String) :
    holds _ (fun _ => True) (operand.stringOr default) :=
  steps.map serves.string fun _ _ => trivial

theorem numberOr (serves : operand.Serves holds whole) (default : Number) :
    holds _ (fun _ => True) (operand.numberOr default) :=
  steps.map serves.number fun _ _ => trivial

theorem booleanOr (serves : operand.Serves holds whole) (default : Bool) :
    holds _ (fun _ => True) (operand.booleanOr default) :=
  steps.map serves.boolean fun _ _ => trivial

theorem datumOr (serves : operand.Serves holds true) (default : Datum) :
    holds _ (fun _ => True) (operand.datumOr default) :=
  steps.map (serves.datum rfl) fun _ _ => trivial

theorem addressText (serves : operand.Serves holds whole) (dialect : Dialect)
    (default : String) : holds _ (fun _ => True) (operand.addressText dialect default) := by
  cases dialect with
  | path => exact steps.map serves.pathText fun _ _ => trivial
  | pointer => exact steps.map serves.pointerText fun _ _ => trivial

end Serves

end Steps

section Law

variable (law : Script.Law holds)

include law

theorem resolve_obeys {α : Type} (address : Address) (expected : JsonKind)
    (read : Json → Option α) : holds _ (fun _ => True) (address.resolve expected read) :=
  law.resolve trivial fun _ _ _ => trivial

theorem ofAddress_obeys (address : Address) : (ofAddress address).Obeys holds where
  string := resolve_obeys law address _ _
  number := resolve_obeys law address _ _
  boolean := resolve_obeys law address _ _
  datum := resolve_obeys law address .object fun json => some (Datum.ofJson json)
  items := by
    refine law.resolve (by simp) ?_
    intro json scripts same
    obtain ⟨items, -, rfl⟩ := Option.map_eq_some_iff.mp same
    rintro _ ⟨rfl⟩ script member
    obtain ⟨item, -, rfl⟩ := List.mem_map.mp member
    exact (ofJson_obeys law.steps item).datum
  pathText := by
    cases address with
    | path place => exact law.pure _
    | pointer place => exact resolve_obeys law _ _ _
  pointerText := by
    cases address with
    | path place => exact resolve_obeys law _ _ _
    | pointer place => exact law.pure _

theorem computed_obeys {dialect : Dialect} {result : Script Operand}
    (obeys : holds _ (Obeys holds) result) : (computed dialect result).Obeys holds := by
  have through {α : Type} {good : Option α → Prop} {next : Option Address → Script (Option α)}
      (missing : holds _ good (next none)) (found : ∀ address, holds _ good (next (some address))) :
      holds _ good ((place dialect result).bind next) := by
    refine law.bind (place_obeys law.steps obeys) fun place _ => ?_
    cases place with
    | none => exact missing
    | some address => exact found address
  exact {
    string := through (law.pure _) fun address => (ofAddress_obeys law address).string
    number := through (law.pure _) fun address => (ofAddress_obeys law address).number
    boolean := through (law.pure _) fun address => (ofAddress_obeys law address).boolean
    datum := through (law.pure _) fun address => (ofAddress_obeys law address).datum
    items := through (law.done (by simp)) fun address => (ofAddress_obeys law address).items
    pathText := by
      cases dialect with
      | path => exact (chased_obeys law.steps obeys).string
      | pointer => exact through (law.pure _) fun address => (ofAddress_obeys law address).string
    pointerText := by
      cases dialect with
      | path => exact through (law.pure _) fun address => (ofAddress_obeys law address).string
      | pointer => exact (chased_obeys law.steps obeys).string }

end Law

end Operand

end Verdict
