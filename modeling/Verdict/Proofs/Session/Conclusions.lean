import Verdict.Proofs.Value.Items

/-! How a call ends that resolves its arguments, reports one failure or none and answers with a
value. Whatever the arguments reported has happened before. -/

set_option autoImplicit false

namespace Verdict

/-- How a script ends with a value, unless what it reports before is not recovered from. -/
def Session.conclude {α : Type} (session : Session) (strategy : Strategy)
    (reported : Option Failure) (value : α) : Except Error α × Session :=
  match reported with
  | none => (.ok value, session)
  | some failure =>
      ((strategy.judge session.failures failure).elim (.ok value) .error,
        { session with failures := session.failures ++ [failure] })

namespace Script

variable {α β : Type} {setting : Setting} {session after : Session}

theorem run_bind (script : Script α) (next : α → Script β) :
    (script.bind next).run setting session =
      match script.run setting session with
      | (.ok value, after) => (next value).run setting after
      | (.error error, after) => (.error error, after) := by
  induction script generalizing session with
  | done value => rfl
  | fail error => rfl
  | look address answer ih => exact ih _
  | read reading answer ih => exact ih _
  | report failure rest ih =>
      cases judged : setting.strategy.judge session.failures failure with
      | some error => simp only [bind, run, judged]
      | none => simpa only [bind, run, judged] using ih

theorem run_bind_of_ok {script : Script α} {next : α → Script β} {value : α}
    (comes : script.run setting session = (.ok value, after)) :
    (script.bind next).run setting session = (next value).run setting after := by
  rw [run_bind, comes]

theorem run_bind_eq_ok_iff {script : Script α} {next : α → Script β} {result : β} :
    (script.bind next).run setting session = (.ok result, after) ↔
      ∃ value between, script.run setting session = (.ok value, between) ∧
        (next value).run setting between = (.ok result, after) := by
  rw [run_bind]
  cases ends : script.run setting session with
  | mk outcome between =>
      cases outcome with
      | error error => simp
      | ok value => simp [and_assoc]

theorem run_report (failure : Failure) (value : α) :
    (Script.report failure (.done value)).run setting session =
      session.conclude setting.strategy (some failure) value := by
  rw [run, Session.conclude]
  cases setting.strategy.judge session.failures failure <;> rfl

/-- What goes on with the value of a script without a look or a report ends as the script does. -/
theorem run_bind_of_conclude {script : Script α} {next : α → Script β} {reported : Option Failure}
    {value : α} {result : β}
    (ends : script.run setting session = after.conclude setting.strategy reported value)
    (further : next value = .done result) :
    (script.bind next).run setting session =
      after.conclude setting.strategy reported result := by
  rw [run_bind, ends]
  cases reported with
  | none =>
      dsimp only [Session.conclude]
      rw [further]
      rfl
  | some failure =>
      dsimp only [Session.conclude]
      cases setting.strategy.judge after.failures failure with
      | some error => rfl
      | none =>
          dsimp only [Option.elim]
          rw [further]
          rfl

end Script

namespace Operand

variable (result : Script Operand)

theorem stringOr_chased (default : String) :
    (chased result).stringOr default = result.bind fun operand => operand.stringOr default :=
  Script.bind_assoc _ _ _

theorem numberOr_chased (default : Number) :
    (chased result).numberOr default = result.bind fun operand => operand.numberOr default :=
  Script.bind_assoc _ _ _

theorem booleanOr_chased (default : Bool) :
    (chased result).booleanOr default = result.bind fun operand => operand.booleanOr default :=
  Script.bind_assoc _ _ _

theorem datumOr_chased (default : Datum) :
    (chased result).datumOr default = result.bind fun operand => operand.datumOr default :=
  Script.bind_assoc _ _ _

end Operand

namespace Call

/-- A call answers with a value, and whatever can be made of the value at once can be made of the
call where it stands as an operand. In between the session has become another. -/
structure Gives (setting : Setting) (session after : Session) (call : Call)
    (reported : Option Failure) (value : Value) : Prop where
  invoked : call.invoke.run setting session = after.conclude setting.strategy reported value
  string : ∀ role default text, value.resolveString default = .done text →
    ((Value.called role call).resolveString default).run setting session =
      after.conclude setting.strategy reported text
  number : ∀ role default number, value.resolveNumber default = .done number →
    ((Value.called role call).resolveNumber default).run setting session =
      after.conclude setting.strategy reported number
  boolean : ∀ role default truth, value.resolveBoolean default = .done truth →
    ((Value.called role call).resolveBoolean default).run setting session =
      after.conclude setting.strategy reported truth
  datum : ∀ role default datum, value.resolveDatum default = .done datum →
    ((Value.called role call).resolveDatum default).run setting session =
      after.conclude setting.strategy reported datum

variable {setting : Setting} {session after : Session} {reported : Option Failure}

theorem gives_of_invoke {call : Call} {value : Value}
    (invoked : call.invoke.run setting session =
      after.conclude setting.strategy reported value) :
    call.Gives setting session after reported value := by
  have asked {α : Type} (ask : Operand → Script α) {answer : α}
      (answers : ask value.operand = .done answer) :
      (call.result.bind ask).run setting session =
        after.conclude setting.strategy reported answer := by
    rw [result_eq_invoke, Script.bind_assoc]
    exact Script.run_bind_of_conclude invoked answers
  constructor
  case invoked => exact invoked
  case string =>
    intro role default text comes
    rw [Value.resolveString, Value.operand, Operand.stringOr_chased]
    exact asked (fun operand => operand.stringOr default) comes
  case number =>
    intro role default number comes
    rw [Value.resolveNumber, Value.operand, Operand.numberOr_chased]
    exact asked (fun operand => operand.numberOr default) comes
  case boolean =>
    intro role default truth comes
    rw [Value.resolveBoolean, Value.operand, Operand.booleanOr_chased]
    exact asked (fun operand => operand.booleanOr default) comes
  case datum =>
    intro role default datum comes
    rw [Value.resolveDatum, Value.operand, Operand.datumOr_chased]
    exact asked (fun operand => operand.datumOr default) comes

/-- A call gives the value that its reply stands for. -/
theorem gives_of_run {name : String} {arguments attached : List Value} {signature : Signature}
    {implementation : Implementation} (reply : Reply) {value : Value}
    (replies : (implementation (Value.operands arguments)).run setting session =
      after.conclude setting.strategy reported reply)
    (stands : reply.value arguments attached = .done value) :
    (Call.mk name arguments signature attached implementation).Gives setting session after reported
      value :=
  gives_of_invoke (Script.run_bind_of_conclude replies stands)

end Call

end Verdict
