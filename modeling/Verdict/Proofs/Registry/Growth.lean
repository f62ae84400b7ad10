import Verdict.Proofs.Registry.Histories
import Verdict.Proofs.Rule.Completeness
import Verdict.Proofs.Value.Display

/-! A registry only grows. What was bound stays bound to the same overload, so a text that was read
as a rule is read as the same rule ever after. -/

set_option autoImplicit false

namespace Verdict

namespace Registry

/-- The newer registry holds the functions of the older one, and others behind them. -/
def Grows (older newer : Registry) : Prop := ∃ added, newer.functions = older.functions ++ added

variable {older newer : Registry}

theorem Grows.refl (registry : Registry) : registry.Grows registry := ⟨[], by simp⟩

theorem Grows.trans {latest : Registry} (first : older.Grows newer) (second : newer.Grows latest) :
    older.Grows latest := by
  obtain ⟨added, split⟩ := first
  obtain ⟨addedLater, splitLater⟩ := second
  exact ⟨added ++ addedLater, by rw [splitLater, split, List.append_assoc]⟩

theorem Grows.resolve (grows : older.Grows newer) {name : String} {count : Nat}
    {overload : Overload} (resolved : older.resolve name count = .ok overload) :
    newer.resolve name count = .ok overload := by
  obtain ⟨added, split⟩ := grows
  unfold Registry.resolve at resolved ⊢
  cases found : older.find? name with
  | none => simp [found] at resolved
  | some function =>
      have still : newer.find? name = some function := by
        rw [find?, split, List.find?_append, show older.functions.find? _ = _ from found,
          Option.some_or]
      rw [found] at resolved
      rw [still]
      exact resolved

theorem Request.grows_attempt {request : Request}
    (accepted : request.attempt older = .ok newer) : older.Grows newer := by
  obtain ⟨added, -, split⟩ := functions_of_attempt accepted
  exact ⟨added, split⟩

theorem Request.grows_perform (registry : Registry) (request : Request) :
    registry.Grows (request.perform registry) := by
  unfold Request.perform
  split
  · rename_i next accepted
    exact grows_attempt accepted
  · exact .refl registry

theorem grows_performAll (registry : Registry) (requests : List Request) :
    registry.Grows (registry.performAll requests) := by
  induction requests generalizing registry with
  | nil => exact .refl registry
  | cons request requests ih =>
      exact (Request.grows_perform registry request).trans (ih (request.perform registry))

/-- Whatever was registered by some moment of a history is there at its end. -/
theorem grows_of_take (registry : Registry) (requests : List Request) (moment : Nat) :
    (registry.performAll (requests.take moment)).Grows (registry.performAll requests) := by
  have rest := grows_performAll (registry.performAll (requests.take moment))
    (requests.drop moment)
  have whole : (registry.performAll (requests.take moment)).performAll (requests.drop moment) =
      registry.performAll requests := by
    rw [performAll, performAll, ← List.foldl_append, List.take_append_drop, performAll]
  rwa [whole] at rest

end Registry

namespace Grammar

variable {older newer : Registry}

/-- A registry matters to the value that tokens spell only through the names among them. -/
theorem Spells.transfer {tokens : List Token} {value : Value}
    (spelled : Spells older tokens value)
    (resolves : ∀ name count overload, Token.identifier name ∈ tokens →
      older.resolve name count = .ok overload → newer.resolve name count = .ok overload) :
    Spells newer tokens value := by
  induction spelled with
  | number => exact .number
  | truth => exact .truth
  | string quoted => exact .string quoted
  | @array items _ ih =>
      refine .array fun item listed => ih item listed fun name count overload member => ?_
      have inRow : .identifier name ∈ row .comma (items.map Prod.fst) :=
        mem_row (List.mem_map_of_mem listed) member
      exact resolves name count overload (by simp [inRow])
  | @call _ arguments _ _ resolved ih =>
      refine .call (fun argument listed => ih argument listed fun name count overload member => ?_)
        (resolves _ _ _ List.mem_cons_self resolved)
      have inRow : .identifier name ∈ row .comma (arguments.map Prod.fst) :=
        mem_row (List.mem_map_of_mem listed) member
      exact resolves name count overload (by simp [inRow])

theorem Derives.transfer {level : Level} {tokens : List Token} {rule : Rule}
    (derived : Derives older level tokens rule)
    (resolves : ∀ name count overload, Token.identifier name ∈ tokens →
      older.resolve name count = .ok overload → newer.resolve name count = .ok overload) :
    Derives newer level tokens rule := by
  induction derived with
  | enclosed _ ih =>
      exact .enclosed (ih fun name count overload member =>
        resolves name count overload (by simp [member]))
  | negation spelled retyped =>
      exact .negation (spelled.transfer fun name count overload member =>
        resolves name count overload (by simp [member])) retyped
  | binary left right leftRetyped rightRetyped =>
      refine .binary (left.transfer ?_) (right.transfer ?_) leftRetyped rightRetyped
      · exact fun name count overload member => resolves name count overload (by simp [member])
      · exact fun name count overload member => resolves name count overload (by simp [member])
  | single _ ih => exact .single (ih resolves)
  | joined several _ ih =>
      refine .joined several fun member listed => ih member listed fun name count overload inside =>
        resolves name count overload ?_
      exact mem_row (List.mem_map_of_mem listed) inside

theorem Spells.grows (grows : older.Grows newer) {tokens : List Token} {value : Value}
    (spelled : Spells older tokens value) : Spells newer tokens value :=
  spelled.transfer fun _ _ _ _ resolved => grows.resolve resolved

theorem Derives.grows (grows : older.Grows newer) {level : Level} {tokens : List Token}
    {rule : Rule} (derived : Derives older level tokens rule) :
    Derives newer level tokens rule :=
  derived.transfer fun _ _ _ _ resolved => grows.resolve resolved

end Grammar

/-- What was read as a rule is read as the same rule when the registry has grown. -/
theorem parseRule_of_grows {older newer : Registry} (grows : older.Grows newer) {text : String}
    {rule : Rule} (accepted : parseRule older text = .ok rule) :
    parseRule newer text = .ok rule := by
  obtain ⟨spanned, cut, parsed⟩ := parseRule_eq_ok_iff.mp accepted
  have derived := (parseTokens_sound parsed).grows grows
  exact parseRule_eq_ok_iff.mpr ⟨spanned, cut, parseTokens_complete derived⟩

end Verdict
