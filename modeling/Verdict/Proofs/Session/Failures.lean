import Verdict.Proofs.Session.Strategies

/-! What makes an evaluation fail. A rule whose calls are bound to the standard library has no
error of its own: whatever it fails with, the strategy has returned for a failure that was reported
last. -/

set_option autoImplicit false

namespace Verdict

/-- The strategy recovers from each of the failures, reported behind earlier ones. -/
def Strategy.RecoversFrom (strategy : Strategy) (earlier : List Failure) : List Failure → Prop
  | [] => True
  | failure :: failures =>
      strategy.judge earlier failure = none ∧
        strategy.RecoversFrom (earlier ++ [failure]) failures

/-- What a run comes to, given the failures reported before and after it: with a value if the
strategy recovers from all that is reported, and otherwise with the error that the strategy raises
on the last failure. -/
inductive RunEnds {α : Type} (strategy : Strategy) (before : List Failure) (good : α → Prop) :
    Except Error α → List Failure → Prop where
  | answered {value : α} {calls : List Failure} :
      good value → strategy.RecoversFrom before calls →
      RunEnds strategy before good (.ok value) (before ++ calls)
  | raised {calls : List Failure} {last : Failure} {error : Error} :
      strategy.RecoversFrom before calls → strategy.judge (before ++ calls) last = some error →
      RunEnds strategy before good (.error error) (before ++ calls ++ [last])

namespace RunEnds

variable {α : Type} {strategy : Strategy} {before after : List Failure} {good : α → Prop}
  {result : Except Error α}

theorem cons {failure : Failure} (recovers : strategy.judge before failure = none)
    (ends : RunEnds strategy (before ++ [failure]) good result after) :
    RunEnds strategy before good result after := by
  cases ends with
  | @answered value calls holds recovered =>
      rw [List.append_assoc]
      exact .answered holds ⟨recovers, recovered⟩
  | @raised calls last error recovered judged =>
      rw [List.append_assoc before] at judged ⊢
      exact .raised ⟨recovers, recovered⟩ judged

end RunEnds

namespace Script

variable {α : Type}

theorem Answers.ends {good : α → Prop} {script : Script α} (answers : script.Answers good)
    (setting : Setting) (session : Session) :
    RunEnds setting.strategy session.failures good (script.run setting session).1
      (script.run setting session).2.failures := by
  induction answers generalizing session with
  | @done value holds =>
      have ends : RunEnds setting.strategy session.failures good (.ok value)
          (session.failures ++ []) := .answered holds trivial
      simpa [run] using ends
  | @look address next _ ih =>
      have ends := ih (session.lookUp setting.document address).1
        (session.lookUp setting.document address).2
      rwa [Session.failures_lookUp] at ends
  | @read reading next _ ih => exact ih (setting.clock reading) session
  | @report failure rest _ ih =>
      cases judged : setting.strategy.judge session.failures failure with
      | some error =>
          have ends : RunEnds setting.strategy session.failures good (.error error)
              (session.failures ++ [] ++ [failure]) := .raised trivial (by simpa using judged)
          simpa [run, judged] using ends
      | none =>
          have ends := ih { session with failures := session.failures ++ [failure] }
          simpa only [run, judged] using ends.cons judged

end Script

theorem Failure.isData_toError (failure : Failure) : failure.toError.isData = true := by
  cases failure <;> rfl

/-- A rule that is bound to the standard library answers or fails with an error that the strategy
returned for the failure reported last. So a strict evaluation fails with data errors only, and one
that injects defaults never fails. -/
theorem Rule.run_answers_or_raises {rule : Rule} (bound : rule.BoundTo Registry.standard.functions)
    (document : Json) (clock : Reading → Number) (session : Session) :
    (∀ strategy : Strategy,
      (∃ answer, (rule.script.run ⟨document, strategy, clock⟩ session).1 = .ok answer) ∨
      ∃ calls last error,
        (rule.script.run ⟨document, strategy, clock⟩ session).1 = .error error ∧
        (rule.script.run ⟨document, strategy, clock⟩ session).2.failures =
          session.failures ++ calls ++ [last] ∧
        strategy.RecoversFrom session.failures calls ∧
        strategy.judge (session.failures ++ calls) last = some error) ∧
    (∀ error, (rule.script.run ⟨document, .strict, clock⟩ session).1 = .error error →
      error.isData = true) ∧
    ∃ answer, (rule.script.run ⟨document, .injectDefault, clock⟩ session).1 = .ok answer := by
  have total := Rule.script_total Library.standard_answersScalar rule bound
  refine ⟨fun strategy => ?_, fun error failed => ?_, ?_⟩
  · have ends := total.ends ⟨document, strategy, clock⟩ session
    generalize (rule.script.run ⟨document, strategy, clock⟩ session).1 = result at ends ⊢
    generalize (rule.script.run ⟨document, strategy, clock⟩ session).2.failures = after at ends ⊢
    cases ends with
    | answered => exact .inl ⟨_, rfl⟩
    | raised recovered judged => exact .inr ⟨_, _, _, rfl, rfl, recovered, judged⟩
  · have ends := total.ends ⟨document, .strict, clock⟩ session
    rw [failed] at ends
    generalize (rule.script.run ⟨document, .strict, clock⟩ session).2.failures = after at ends
    cases ends with
    | @raised calls last _ _ judged =>
        obtain rfl : last.toError = error := Option.some.inj judged
        exact last.isData_toError
  · obtain ⟨answer, -, answered⟩ := total.exists_ok document clock session
    exact ⟨answer, answered⟩

/-- The failure of a malformed pointer is raised as whatever the strategy makes of it. -/
theorem Rule.run_answers_or_raises_malformed :
    ∃ rule : Rule, rule.BoundTo Registry.standard.functions ∧
      rule.evaluate ⟨.null, .memoryless fun _ => some (.missingValue "elsewhere"), fun _ => .zero⟩ =
        .error (.missingValue "elsewhere") ∧
      (∀ error, rule.evaluate ⟨.null, .strict, fun _ => .zero⟩ = .error error →
        error.isData = true) ∧
      ∃ answer, rule.evaluate ⟨.null, .injectDefault, fun _ => .zero⟩ = .ok answer := by
  cases resolved : Library.pointerExists.resolve 1 with
  | error error => cases resolved
  | ok overload =>
      let present : Value := .called (some .boolean) (.mk "pointer.exists" [.string "a"]
        overload.signature overload.attached overload.implementation)
      have bound : (Rule.negation present).BoundTo Registry.standard.functions := by
        refine ⟨⟨Library.pointerExists, ?_, rfl, resolved⟩, trivial, trivial⟩
        simp [Registry.standard, Registry.ofLibrary, Library.standard, Library.standardOn,
          Library.existences]
      obtain ⟨-, strict, recovering⟩ :=
        Rule.run_answers_or_raises bound .null (fun _ => .zero) .fresh
      refine ⟨.negation present, bound, ?_, strict, recovering⟩
      cases resolved
      rfl

end Verdict
