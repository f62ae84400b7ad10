import Verdict.Value.Resolution

/-! Laws of scripts: properties that hold of what functions and accessors ask and that sequencing
keeps. -/

set_option autoImplicit false

namespace Verdict

/-- What is asked of scripts, given what is good of the values that they end with. -/
abbrev Script.Property : Type 1 := (α : Type) → (α → Prop) → Script α → Prop

/-- The property holds of each step that a standard function takes besides resolving its arguments,
and of what is composed of such steps. -/
structure Script.Steps (holds : Script.Property) : Prop where
  done {α : Type} {good : α → Prop} {value : α} : good value → holds α good (.done value)
  bind {α β : Type} {good : α → Prop} {better : β → Prop} {script : Script α}
    {next : α → Script β} : holds α good script →
    (∀ value, good value → holds β better (next value)) → holds β better (script.bind next)
  illegal {α : Type} {good : α → Prop} {cause : Illegality} {rest : Script α} :
    holds α good rest → holds α good (.report (.illegal cause) rest)
  isPresent {address : Address} : holds Bool (fun _ => True)
    ((Script.lookUp address).bind fun found => .done (present? found).isSome)
  readClock {reading : Reading} : holds Number (fun _ => True) (.readClock reading)

/-- The property holds of each step that a standard function or an accessor takes, and of what is
composed of such steps. -/
structure Script.Law (holds : Script.Property) : Prop where
  done {α : Type} {good : α → Prop} {value : α} : good value → holds α good (.done value)
  bind {α β : Type} {good : α → Prop} {better : β → Prop} {script : Script α}
    {next : α → Script β} : holds α good script →
    (∀ value, good value → holds β better (next value)) → holds β better (script.bind next)
  illegal {α : Type} {good : α → Prop} {cause : Illegality} {rest : Script α} :
    holds α good rest → holds α good (.report (.illegal cause) rest)
  lookUp {address : Address} : holds (Option Json) (fun _ => True) (.lookUp address)
  readClock {reading : Reading} : holds Number (fun _ => True) (.readClock reading)
  resolve {α : Type} {good : Option α → Prop} {address : Address} {expected : JsonKind}
    {read : Json → Option α} : good none →
    (∀ json value, read json = some value → good (some value)) →
    holds (Option α) good (address.resolve expected read)

theorem Script.bind_done {α : Type} (script : Script α) : script.bind .done = script := by
  induction script with
  | done value => rfl
  | fail error => rfl
  | look address next ih => exact congrArg (Script.look address) (funext ih)
  | read reading next ih => exact congrArg (Script.read reading) (funext ih)
  | report failure rest ih => exact congrArg (Script.report failure) ih

namespace Script.Steps

variable {holds : Script.Property} {α β : Type}

theorem pure (steps : Steps holds) (value : α) : holds α (fun _ => True) (.done value) :=
  steps.done trivial

theorem map (steps : Steps holds) {good : α → Prop} {better : β → Prop} {script : Script α}
    {image : α → β} (obeys : holds α good script)
    (follows : ∀ value, good value → better (image value)) :
    holds β better (script.bind fun value => .done (image value)) :=
  steps.bind obeys fun value holds => steps.done (follows value holds)

theorem reportIllegal (steps : Steps holds) (cause : Illegality) :
    holds (Option α) (fun _ => True) (.reportIllegal cause) :=
  steps.illegal (steps.pure none)

theorem sequence (steps : Steps holds) {scripts : List (Script α)}
    (obey : ∀ script ∈ scripts, holds α (fun _ => True) script) :
    holds (List α) (fun _ => True) (Script.sequence scripts) := by
  induction scripts with
  | nil => exact steps.pure []
  | cons first others ih =>
      obtain ⟨front, behind⟩ := List.forall_mem_cons.mp obey
      exact steps.bind front fun _ _ => steps.map (ih behind) fun _ _ => trivial

end Script.Steps

namespace Script.Law

variable {holds : Script.Property} {α β : Type}

theorem steps (law : Law holds) : Steps holds where
  done := law.done
  bind := law.bind
  illegal := law.illegal
  isPresent := law.bind law.lookUp fun _ _ => law.done trivial
  readClock := law.readClock

theorem pure (law : Law holds) (value : α) : holds α (fun _ => True) (.done value) :=
  law.done trivial

theorem map (law : Law holds) {good : α → Prop} {better : β → Prop} {script : Script α}
    {image : α → β} (obeys : holds α good script)
    (follows : ∀ value, good value → better (image value)) :
    holds β better (script.bind fun value => .done (image value)) :=
  law.steps.map obeys follows

theorem widen (law : Law holds) {good wider : α → Prop} {script : Script α}
    (obeys : holds α good script) (widens : ∀ value, good value → wider value) :
    holds α wider script := by
  rw [← script.bind_done]
  exact law.map obeys widens

end Script.Law

end Verdict
