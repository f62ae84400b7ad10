import Verdict.Proofs.Session.Silence
import Verdict.Proofs.Value.Hashing
import Verdict.Proofs.Value.Items
import Verdict.Registry.Discovery
import Verdict.Rule.Parser

/-! What the functions on arrays find. They look members up in a hashed collection, so a member is
found where it is equal to what is wanted and hashing agrees with equality on the two. -/

set_option autoImplicit false

namespace Verdict

open Script

/-- A call answers a truth value in a session and reports nothing, whether it is invoked or stands
as an operand. -/
structure Call.Decides (setting : Setting) (session : Session) (call : Call) (truth : Bool) :
    Prop where
  invoked : call.invoke.ComesTo setting session (.boolean truth)
  boolean : ∀ role default,
    ((Value.called role call).resolveBoolean default).ComesTo setting session truth
  datum : ∀ role default,
    ((Value.called role call).resolveDatum default).ComesTo setting session (.boolean truth)

theorem Call.decides_of_reply {setting : Setting} {session : Session}
    (faithful : session.Faithful setting.document) {name : String} {arguments attached : List Value}
    {signature : Signature} {implementation : Implementation} {truth : Bool}
    (replies : (implementation (Value.operands arguments)).quiet? setting.document setting.clock =
      some (.boolean truth)) :
    (Call.mk name arguments signature attached implementation).Decides setting session truth := by
  have result : (Call.result (.mk name arguments signature attached implementation)).quiet?
      setting.document setting.clock = some (.ofBoolean truth) := by
    rw [Call.result]
    exact quiet?_bind_eq_some_iff.mpr ⟨.boolean truth, replies, rfl⟩
  constructor
  case invoked =>
    apply (comesTo_iff faithful).mpr
    exact quiet?_bind_eq_some_iff.mpr ⟨.boolean truth, replies, rfl⟩
  case boolean =>
    intro role default
    apply (comesTo_iff faithful).mpr
    exact quiet?_bind_eq_some_iff.mpr
      ⟨some truth, quiet?_bind_eq_some_iff.mpr ⟨.ofBoolean truth, result, rfl⟩, rfl⟩
  case datum =>
    intro role default
    apply (comesTo_iff faithful).mpr
    exact quiet?_bind_eq_some_iff.mpr
      ⟨some (.boolean truth), quiet?_bind_eq_some_iff.mpr ⟨.ofBoolean truth, result, rfl⟩, rfl⟩

namespace Library

section Quiet

variable {document : Json} {clock : Reading → Number}

end Quiet

end Library

end Verdict
