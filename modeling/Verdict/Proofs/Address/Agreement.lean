import Verdict.Proofs.Address.Accessors
import Verdict.Proofs.Address.Spelling
import Verdict.Proofs.Value.Display

/-! Paths and pointers lead to the same places. Steps that lead to a value lead there as a path, with
indexes counted from either end, and as the pointer text of the steps; so whatever is resolved
through the one is resolved through the other. -/

set_option autoImplicit false

namespace Verdict

/-- Where steps lead from a value: keys through objects and indexes through arrays. -/
inductive Leads : Json → List Step → Json → Prop where
  | here {json : Json} : Leads json [] json
  | key {fields : List (String × Json)} {name : String} {child target : Json}
      {steps : List Step} :
      fields.lookup name = some child → Leads child steps target →
      Leads (.object fields) (.key name :: steps) target
  | index {items : List Json} {position : Nat} {child target : Json} {steps : List Step} :
      items[position]? = some child → Leads child steps target →
      Leads (.array items) (.index position :: steps) target

/-- The steps that a path stands for from a value on. It gives an index as it is or, less the length
of the array, as a negative one. -/
inductive StandsFor : Json → List PathStep → List Step → Prop where
  | here {json : Json} : StandsFor json [] []
  | key {fields : List (String × Json)} {name : String} {child : Json}
      {written : List PathStep} {steps : List Step} :
      fields.lookup name = some child → StandsFor child written steps →
      StandsFor (.object fields) (.key name :: written) (.key name :: steps)
  | fromStart {items : List Json} {position : Nat} {child : Json}
      {written : List PathStep} {steps : List Step} :
      items[position]? = some child → StandsFor child written steps →
      StandsFor (.array items) (.index position :: written) (.index position :: steps)
  | fromEnd {items : List Json} {position : Nat} {child : Json}
      {written : List PathStep} {steps : List Step} :
      items[position]? = some child → StandsFor child written steps →
      StandsFor (.array items) (.index (position - items.length) :: written)
        (.index position :: steps)

namespace PathStep

theorem follow_fromStart (items : List Json) (position : Nat) :
    (PathStep.index position).follow (.array items) = items[position]? := by
  have positive : ¬ (position : Int) < 0 := by omega
  simp [follow, positive]

theorem follow_fromEnd {items : List Json} {position : Nat} (within : position < items.length) :
    (PathStep.index (position - items.length)).follow (.array items) = items[position]? := by
  have negative : (position : Int) - items.length < 0 := by omega
  have back : (items.length : Int) + (position - items.length) = position := by omega
  have positive : ¬ (position : Int) < 0 := by omega
  simp only [follow, negative, back, positive, if_true, if_false, Int.toNat_natCast]

/-- A negative index that reaches beyond the first item finds nothing. -/
theorem follow_beyond {items : List Json} {position : Int} (beyond : position < -items.length) :
    (PathStep.index position).follow (.array items) = none := by
  have negative : position < 0 := by omega
  have before : (items.length : Int) + position < 0 := by omega
  simp [follow, negative, before]

end PathStep

variable {document target : Json} {steps : List Step} {written : List PathStep}

/-- A path that stands for the steps to a value goes on from that value. -/
theorem StandsFor.foldlM_follow (standsFor : StandsFor document written steps)
    (leads : Leads document steps target) (rest : List PathStep) :
    (written ++ rest).foldlM (fun json step => step.follow json) document =
      rest.foldlM (fun json step => step.follow json) target := by
  induction standsFor with
  | here =>
      cases leads
      rfl
  | key found _ ih =>
      cases leads with
      | key reached further =>
          rw [found] at reached
          obtain rfl := Option.some.inj reached
          rw [List.cons_append, List.foldlM_cons, PathStep.follow, Json.field?, found]
          exact ih further
  | fromStart found _ ih =>
      cases leads with
      | index reached further =>
          rw [found] at reached
          obtain rfl := Option.some.inj reached
          rw [List.cons_append, List.foldlM_cons, PathStep.follow_fromStart, found]
          exact ih further
  | fromEnd found _ ih =>
      cases leads with
      | index reached further =>
          rw [found] at reached
          obtain rfl := Option.some.inj reached
          have within := (List.getElem?_eq_some_iff.mp found).1
          rw [List.cons_append, List.foldlM_cons, PathStep.follow_fromEnd within, found]
          exact ih further

theorem StandsFor.locate {path : Path} (standsFor : StandsFor document path.steps steps)
    (leads : Leads document steps target) : path.locate document = some target := by
  have located := standsFor.foldlM_follow leads []
  rw [List.append_nil] at located
  exact located

theorem StandsFor.locate_beyond {path : Path} {items : List Json} {position : Int}
    {rest : List PathStep} (standsFor : StandsFor document written steps)
    (leads : Leads document steps (.array items))
    (split : path.steps = written ++ .index position :: rest)
    (beyond : position < -items.length) : path.locate document = none := by
  rw [Path.locate, split, standsFor.foldlM_follow leads, List.foldlM_cons,
    PathStep.follow_beyond beyond]
  rfl

theorem Leads.locate {pointer : Pointer} (leads : Leads document steps target)
    (text : pointer.text = Pointer.spell steps) : pointer.locate document = some target := by
  -- The tokens of the spelled text are the steps again, so both are followed in one walk.
  rw [Pointer.locate, text, Pointer.tokens_spell, List.foldlM_map]
  clear text
  induction leads with
  | here => rfl
  | key found _ ih =>
      rw [List.foldlM_cons, Pointer.follow_key, found]
      exact ih
  | index found _ ih =>
      rw [List.foldlM_cons, Pointer.follow_index, found]
      exact ih

/-- Paths and pointers address alike. Steps always have a pointer text, and if they lead to a value
then so do this pointer and every path that stands for the steps; every accessor then concludes the
same from either, whatever was done before in its session, and only the text in a failure differs.
A negative index beyond the first item of an array finds nothing. -/
theorem path_pointer_agree (setting : Setting) :
    (∀ steps, ∃ pointer, Pointer.compile (Pointer.spell steps) = .ok pointer) ∧
    (∀ steps target, Leads setting.document steps target →
      ∀ pathText path pointer, Path.compile pathText = .ok path →
        StandsFor setting.document path.steps steps →
        Pointer.compile (Pointer.spell steps) = .ok pointer →
        path.locate setting.document = some target ∧
        pointer.locate setting.document = some target ∧
        ∀ (accessor : Accessor) (role : Option Role) (operations : List Operation),
          accessor.observe setting (Operation.performAll setting operations .fresh).2
              (.located role (.path path)) =
            accessor.settle setting.strategy
              (Operation.performAll setting operations .fresh).2.failures pathText
              (accessor.find (some target)) ∧
          accessor.observe setting (Operation.performAll setting operations .fresh).2
              (.located role (.pointer pointer)) =
            accessor.settle setting.strategy
              (Operation.performAll setting operations .fresh).2.failures (Pointer.spell steps)
              (accessor.find (some target))) ∧
    ∀ steps items, Leads setting.document steps (.array items) →
      ∀ (pathText : String) (path : Path) (written : List PathStep) (position : Int)
        (rest : List PathStep), Path.compile pathText = .ok path →
        path.steps = written ++ .index position :: rest →
        StandsFor setting.document written steps → position < -items.length →
        path.locate setting.document = none := by
  refine ⟨?_, ?_, ?_⟩
  · intro steps
    exact ⟨_, Pointer.compile_spell steps⟩
  · intro steps target leads pathText path pointer pathCompiled standsFor pointerCompiled
    have pathLocated := standsFor.locate leads
    have pointerLocated := leads.locate (Pointer.text_of_compile pointerCompiled)
    refine ⟨pathLocated, pointerLocated, fun accessor role operations => ?_⟩
    have faithful := (Operation.performAll_eq_walkAll_of_faithful operations
      (@Session.fresh_faithful setting.document)).2
    have throughPath := accessor.observe_located faithful role (.path path)
    have throughPointer := accessor.observe_located faithful role (.pointer pointer)
    rw [Address.text, Path.text_of_compile pathCompiled, Address.locate, pathLocated]
      at throughPath
    rw [Address.text, Pointer.text_of_compile pointerCompiled, Address.locate, pointerLocated]
      at throughPointer
    exact ⟨throughPath, throughPointer⟩
  · intro steps items leads pathText path written position rest _ split standsFor beyond
    exact standsFor.locate_beyond leads split beyond

/-- The key needs both escapes, the index is counted from the end, and the least index of 64 bits
is beyond the first item. -/
theorem path_pointer_agree_escaped :
    ∃ document : Json, ∃ path least : Path, ∃ pointer : Pointer,
      Path.compile "$['a/b~'][-1]" = .ok path ∧ Pointer.compile "/a~1b~0/1" = .ok pointer ∧
      path.locate document = some (.boolean true) ∧
      pointer.locate document = some (.boolean true) ∧
      Path.compile "$['a/b~'][-9223372036854775808]" = .ok least ∧
      least.locate document = none := by
  let items : List Json := [.null, .boolean true]
  let setting : Setting := ⟨.object [("a/b~", .array items)], .strict, fun _ => .zero⟩
  let path : Path := ⟨"$['a/b~'][-1]", [.key "a/b~", .index (-1)], by rfl⟩
  let least : Path := ⟨"$['a/b~'][-9223372036854775808]",
    [.key "a/b~", .index (-9223372036854775808)], by rfl⟩
  let pointer : Pointer := ⟨"/a~1b~0/1", by rfl⟩
  obtain ⟨-, agree, beyond⟩ := path_pointer_agree setting
  have array : Leads setting.document [.key "a/b~"] (.array items) := .key rfl .here
  have item : Leads setting.document [.key "a/b~", .index 1] (.boolean true) :=
    .key rfl (.index rfl .here)
  have second : items[1]? = some (.boolean true) := rfl
  have last : StandsFor setting.document path.steps [.key "a/b~", .index 1] :=
    .key rfl (.fromEnd second .here)
  obtain ⟨pathLocated, pointerLocated, -⟩ := agree _ _ item "$['a/b~'][-1]" path pointer rfl last rfl
  have nothing := beyond _ items array "$['a/b~'][-9223372036854775808]" least [.key "a/b~"]
    (-9223372036854775808) [] rfl rfl (.key rfl .here) (by decide)
  exact ⟨setting.document, path, least, pointer, rfl, rfl, pathLocated, pointerLocated, rfl, nothing⟩

end Verdict
