import Verdict.Proofs.Script.Laws

/-! Scripts that always come to an answer: whatever their questions are answered with, they end with
a value and never with an error of their own. Others may fail, and are known by the values that they
end with otherwise. -/

set_option autoImplicit false

namespace Verdict

namespace Script

/-- Every run that recovers from all failures ends with a good value. -/
inductive Answers {α : Type} (good : α → Prop) : Script α → Prop where
  | done {value : α} : good value → Answers good (.done value)
  | look {address : Address} {next : Option Json → Script α} :
      (∀ found, Answers good (next found)) → Answers good (.look address next)
  | read {reading : Reading} {next : Number → Script α} :
      (∀ number, Answers good (next number)) → Answers good (.read reading next)
  | report {failure : Failure} {rest : Script α} :
      Answers good rest → Answers good (.report failure rest)

/-- Every run ends with some value. -/
def Total {α : Type} (script : Script α) : Prop := Answers (fun _ => True) script

variable {α β : Type} {good : α → Prop} {better : β → Prop}

theorem Answers.bind {script : Script α} {next : α → Script β} (answers : Answers good script)
    (follows : ∀ value, good value → Answers better (next value)) :
    Answers better (script.bind next) := by
  induction answers with
  | done holds => exact follows _ holds
  | look _ ih => exact .look ih
  | read _ ih => exact .read ih
  | report _ ih => exact .report ih

theorem answers_law : Law fun _ good script => Answers good script where
  done := .done
  bind := Answers.bind
  illegal := .report
  lookUp := .look fun _ => .done trivial
  readClock := .read fun _ => .done trivial
  resolve := by
    intro α good address expected read absent found
    refine .look fun outcome => ?_
    cases present? outcome with
    | none => exact .report (.done absent)
    | some json =>
        dsimp only
        split
        · rename_i value same
          exact .done (found json value same)
        · exact .report (.done absent)

/-- Every run that ends with a value ends with a good one. -/
inductive Yields {α : Type} (good : α → Prop) : Script α → Prop where
  | done {value : α} : good value → Yields good (.done value)
  | fail {error : Error} : Yields good (.fail error)
  | look {address : Address} {next : Option Json → Script α} :
      (∀ found, Yields good (next found)) → Yields good (.look address next)
  | read {reading : Reading} {next : Number → Script α} :
      (∀ number, Yields good (next number)) → Yields good (.read reading next)
  | report {failure : Failure} {rest : Script α} :
      Yields good rest → Yields good (.report failure rest)

theorem Answers.yields {script : Script α} (answers : Answers good script) :
    Yields good script := by
  induction answers with
  | done holds => exact .done holds
  | look _ ih => exact .look ih
  | read _ ih => exact .read ih
  | report _ ih => exact .report ih

theorem Yields.of_forall (all : ∀ value, good value) (script : Script α) : Yields good script := by
  induction script with
  | done value => exact .done (all value)
  | fail error => exact .fail
  | look address next ih => exact .look ih
  | read reading next ih => exact .read ih
  | report failure rest ih => exact .report ih

theorem Yields.trivial (script : Script α) : Yields (fun _ => True) script :=
  .of_forall (fun _ => True.intro) script

theorem Yields.bind {script : Script α} {next : α → Script β} (yields : Yields good script)
    (follows : ∀ value, good value → Yields better (next value)) :
    Yields better (script.bind next) := by
  induction yields with
  | done holds => exact follows _ holds
  | fail => exact .fail
  | look _ ih => exact .look ih
  | read _ ih => exact .read ih
  | report _ ih => exact .report ih

theorem yields_law : Law fun _ good script => Yields good script where
  done := .done
  bind := .bind
  illegal := .report
  lookUp := .trivial _
  readClock := .trivial _
  resolve := fun absent found => (answers_law.resolve absent found).yields

/-- What follows matters only for the values that a script may end with. -/
theorem Yields.bind_congr {script : Script α} {next other : α → Script β}
    (yields : Yields good script) (same : ∀ value, good value → next value = other value) :
    script.bind next = script.bind other := by
  induction yields with
  | done holds => exact same _ holds
  | fail => rfl
  | look _ ih => exact congrArg (Script.look _) (funext ih)
  | read _ ih => exact congrArg (Script.read _) (funext ih)
  | report _ ih => exact congrArg (Script.report _) ih

end Script

end Verdict
