import Verdict.Proofs.Session.Memory

/-! What a script comes to when nothing fails. Then neither the memory of a session nor its strategy
plays a part: the document and the clock alone decide. -/

set_option autoImplicit false

namespace Verdict

namespace Script

variable {α β : Type}

/-- The value that a script comes to if it has no error and reports no failure. -/
def quiet? (document : Json) (clock : Reading → Number) : Script α → Option α
  | .done value => some value
  | .fail _ => none
  | .look address next => (next (address.locate document)).quiet? document clock
  | .read reading next => (next (clock reading)).quiet? document clock
  | .report _ _ => none

section Compose

variable {document : Json} {clock : Reading → Number}

theorem quiet?_bind (script : Script α) (next : α → Script β) :
    (script.bind next).quiet? document clock =
      (script.quiet? document clock).bind fun value => (next value).quiet? document clock := by
  induction script with
  | done value => rfl
  | fail error => rfl
  | look address answer ih => exact ih (address.locate document)
  | read reading answer ih => exact ih (clock reading)
  | report failure rest ih => rfl

theorem quiet?_bind_eq_some_iff {script : Script α} {next : α → Script β} {result : β} :
    (script.bind next).quiet? document clock = some result ↔
      ∃ value, script.quiet? document clock = some value ∧
        (next value).quiet? document clock = some result := by
  rw [quiet?_bind, Option.bind_eq_some_iff]

/-- Whatever the first script comes to when nothing fails, the second comes to as well. -/
def Refines (document : Json) (clock : Reading → Number) (first second : Script α) : Prop :=
  ∀ value, first.quiet? document clock = some value → second.quiet? document clock = some value

theorem Refines.refl (script : Script α) : Refines document clock script script := fun _ => id

theorem Refines.bind {first second : Script α} {firstNext secondNext : α → Script β}
    (refines : Refines document clock first second)
    (follow : ∀ value, Refines document clock (firstNext value) (secondNext value)) :
    Refines document clock (first.bind firstNext) (second.bind secondNext) := by
  intro result comes
  obtain ⟨value, found, further⟩ := quiet?_bind_eq_some_iff.mp comes
  exact quiet?_bind_eq_some_iff.mpr ⟨value, refines value found, follow value result further⟩

theorem Refines.sequence {pairs : List (Script α × Script α)}
    (refines : ∀ pair ∈ pairs, Refines document clock pair.1 pair.2) :
    Refines document clock (Script.sequence (pairs.map Prod.fst))
      (Script.sequence (pairs.map Prod.snd)) := by
  induction pairs with
  | nil => exact .refl _
  | cons first others ih =>
      obtain ⟨front, behind⟩ := List.forall_mem_cons.mp refines
      apply front.bind
      intro value
      apply (ih behind).bind
      intro values
      exact .refl _

end Compose

theorem exists_failures_walk (setting : Setting) (script : Script α) (failures : List Failure) :
    ∃ calls, (script.walk setting failures).2 = failures ++ calls := by
  induction script generalizing failures with
  | done value => exact ⟨[], (List.append_nil _).symm⟩
  | fail error => exact ⟨[], (List.append_nil _).symm⟩
  | look address next ih => exact ih (address.locate setting.document) failures
  | read reading next ih => exact ih (setting.clock reading) failures
  | report failure rest ih =>
      rw [walk]
      split
      · exact ⟨[failure], rfl⟩
      · obtain ⟨calls, same⟩ := ih (failures ++ [failure])
        exact ⟨failure :: calls, by rw [same, List.append_assoc]; rfl⟩

/-- A script comes to a value without a failure exactly if it has one when nothing fails. -/
theorem walk_eq_iff {setting : Setting} {script : Script α} (failures : List Failure) {value : α} :
    script.walk setting failures = (.ok value, failures) ↔
      script.quiet? setting.document setting.clock = some value := by
  induction script with
  | done other => simp [walk, quiet?]
  | fail error => simp [walk, quiet?]
  | look address next ih => exact ih (address.locate setting.document)
  | read reading next ih => exact ih (setting.clock reading)
  | report failure rest ih =>
      apply iff_of_false
      · -- What is reported stays among the failures, so they cannot be what they were.
        intro same
        rw [walk] at same
        split at same
        · cases same
        · obtain ⟨calls, reported⟩ := rest.exists_failures_walk setting (failures ++ [failure])
          rw [same] at reported
          simp at reported
      · exact Option.some_ne_none _ ∘ Eq.symm

/-- Under the strict strategy a script with a value has reported nothing. -/
theorem walk_strict_eq_ok_iff {document : Json} {clock : Reading → Number} {script : Script α}
    {failures : List Failure} {value : α} :
    (script.walk ⟨document, .strict, clock⟩ failures).1 = .ok value ↔
      script.quiet? document clock = some value := by
  induction script with
  | done other => simp [walk, quiet?]
  | fail error => simp [walk, quiet?]
  | look address next ih => exact ih (address.locate document)
  | read reading next ih => exact ih (clock reading)
  | report failure rest ih => simp [walk, quiet?, Strategy.strict, Strategy.memoryless]

/-- In a session, a script comes to a value and reports no failure. -/
structure ComesTo (setting : Setting) (session : Session) (script : Script α) (value : α) :
    Prop where
  result : (script.run setting session).1 = .ok value
  failures : (script.run setting session).2.failures = session.failures

theorem comesTo_iff {setting : Setting} {session : Session}
    (faithful : session.Faithful setting.document) {script : Script α} {value : α} :
    script.ComesTo setting session value ↔
      script.quiet? setting.document setting.clock = some value := by
  obtain ⟨result, failures, -⟩ := script.run_eq_walk faithful
  rw [← walk_eq_iff session.failures, Prod.ext_iff, ← result, ← failures]
  exact ⟨fun comes => ⟨comes.result, comes.failures⟩, fun both => ⟨both.1, both.2⟩⟩

end Script

/-- A rule evaluates to a truth value under the strict strategy exactly if it does so when nothing
fails. -/
theorem Rule.evaluate_strict_eq_ok_iff {rule : Rule} {document : Json} {clock : Reading → Number}
    {answer : Bool} :
    rule.evaluate ⟨document, .strict, clock⟩ = .ok answer ↔
      rule.script.quiet? document clock = some answer := by
  obtain ⟨result, -, -⟩ :=
    @Script.run_eq_walk _ ⟨document, .strict, clock⟩ rule.script _ Session.fresh_faithful
  rw [Rule.evaluate, result]
  exact Script.walk_strict_eq_ok_iff

end Verdict
