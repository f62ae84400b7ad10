import Verdict.Proofs.Session.Strategies

/-! Which failures a script can report. The bound is on the whole script, whatever its questions are
answered with, so it holds of every run in every setting. -/

set_option autoImplicit false

namespace Verdict

namespace Script

/-- Whatever the questions are answered with, every failure that is reported is an allowed one. -/
inductive Reports {α : Type} (allowed : Failure → Prop) : Script α → Prop where
  | done {value : α} : Reports allowed (.done value)
  | fail {error : Error} : Reports allowed (.fail error)
  | look {address : Address} {next : Option Json → Script α} :
      (∀ found, Reports allowed (next found)) → Reports allowed (.look address next)
  | read {reading : Reading} {next : Number → Script α} :
      (∀ number, Reports allowed (next number)) → Reports allowed (.read reading next)
  | report {failure : Failure} {rest : Script α} :
      allowed failure → Reports allowed rest → Reports allowed (.report failure rest)

namespace Reports

variable {α β : Type} {allowed wider : Failure → Prop}

theorem widen {script : Script α} (reports : script.Reports allowed)
    (widens : ∀ failure, allowed failure → wider failure) : script.Reports wider := by
  induction reports with
  | done => exact .done
  | fail => exact .fail
  | look _ ih => exact .look ih
  | read _ ih => exact .read ih
  | report holds _ ih => exact .report (widens _ holds) ih

theorem bind {script : Script α} {next : α → Script β} (reports : script.Reports allowed)
    (follows : ∀ value, (next value).Reports allowed) : (script.bind next).Reports allowed := by
  induction reports with
  | done => exact follows _
  | fail => exact .fail
  | look _ ih => exact .look ih
  | read _ ih => exact .read ih
  | report holds _ ih => exact .report holds ih

theorem sequence {scripts : List (Script α)}
    (reports : ∀ script ∈ scripts, script.Reports allowed) :
    (Script.sequence scripts).Reports allowed := by
  induction scripts with
  | nil => exact .done
  | cons first others ih =>
      obtain ⟨front, behind⟩ := List.forall_mem_cons.mp reports
      apply front.bind
      intro value
      apply (ih behind).bind
      intro values
      exact .done

/-- A run only adds allowed failures to those of its session. -/
theorem run {script : Script α} (reports : script.Reports allowed) (setting : Setting)
    (session : Session) :
    ∃ calls, (script.run setting session).2.failures = session.failures ++ calls ∧
      ∀ call ∈ calls, allowed call := by
  induction reports generalizing session with
  | done => exact ⟨[], by simp [Script.run], by simp⟩
  | fail => exact ⟨[], by simp [Script.run], by simp⟩
  | @look address next _ ih =>
      obtain ⟨calls, failures, allow⟩ := ih (session.lookUp setting.document address).1
        (session.lookUp setting.document address).2
      rw [Session.failures_lookUp] at failures
      exact ⟨calls, failures, allow⟩
  | @read reading next _ ih => exact ih (setting.clock reading) session
  | @report failure rest holds _ ih =>
      cases judged : setting.strategy.judge session.failures failure with
      | some error => exact ⟨[failure], by simp [Script.run, judged], by simpa using holds⟩
      | none =>
          obtain ⟨calls, failures, allow⟩ :=
            ih { session with failures := session.failures ++ [failure] }
          refine ⟨failure :: calls, ?_, List.forall_mem_cons.mpr ⟨holds, allow⟩⟩
          simpa [Script.run, judged] using failures

end Reports

end Script

end Verdict
