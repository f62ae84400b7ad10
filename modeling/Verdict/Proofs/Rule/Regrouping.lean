import Verdict.Proofs.Address.Accessors
import Verdict.Proofs.Session.Conclusions

/-! Groups in rules. A connective asks its members from left to right until one decides, so it does
not matter how members of one connective are grouped, and what stands behind the member at which a
run ends is never asked. -/

set_option autoImplicit false

namespace Verdict

open Script

namespace Rule

theorem script_combined (connective : Connective) (first : Rule) (others : List Rule) :
    (combined connective first others).script = othersScript connective (first :: others) := by
  rw [script, othersScript]

theorem othersScript_cons (connective : Connective) (member : Rule) (members : List Rule) :
    othersScript connective (member :: members) = member.script.bind fun answer =>
      if answer = connective.decider then .done answer else othersScript connective members := by
  rw [othersScript]

/-- Members in a row are asked up to one that decides; only if none does, those behind are asked. -/
theorem othersScript_append (connective : Connective) (members others : List Rule) :
    othersScript connective (members ++ others) =
      (othersScript connective members).bind fun answer =>
        if answer = connective.decider then .done answer else othersScript connective others := by
  induction members with
  | nil =>
      rw [List.nil_append, othersScript, Script.bind, if_neg]
      cases connective <;> decide
  | cons member members ih =>
      rw [List.cons_append, othersScript_cons, othersScript_cons, bind_assoc, ih]
      congr 1
      funext answer
      split
      · rename_i decides
        rw [Script.bind, if_pos decides]
      · rfl

mutual

/-- The second rule is the first with some groups dissolved that stand directly in a group of the
same connective. -/
inductive Regrouped : Rule → Rule → Prop where
  | same {rule : Rule} : Regrouped rule rule
  | combined {connective : Connective} {first newFirst : Rule} {others newOthers : List Rule} :
      MembersRegrouped connective (first :: others) (newFirst :: newOthers) →
      Regrouped (.combined connective first others) (.combined connective newFirst newOthers)

/-- The second list holds the members of the first, with the members of some groups in their
place. -/
inductive MembersRegrouped : Connective → List Rule → List Rule → Prop where
  | nil {connective : Connective} : MembersRegrouped connective [] []
  | kept {connective : Connective} {member newMember : Rule} {members newMembers : List Rule} :
      Regrouped member newMember → MembersRegrouped connective members newMembers →
      MembersRegrouped connective (member :: members) (newMember :: newMembers)
  | dissolved {connective : Connective} {first : Rule}
      {others inner members newMembers : List Rule} :
      MembersRegrouped connective (first :: others) inner →
      MembersRegrouped connective members newMembers →
      MembersRegrouped connective (.combined connective first others :: members)
        (inner ++ newMembers)

end

mutual

/-- Regrouping does not change what a rule asks, so its script is the same altogether. -/
theorem Regrouped.script {rule regrouped : Rule} :
    Regrouped rule regrouped → regrouped.script = rule.script
  | .same => rfl
  | .combined members => by rw [script_combined, script_combined, members.othersScript]

theorem MembersRegrouped.othersScript {connective : Connective} {members regrouped : List Rule} :
    MembersRegrouped connective members regrouped →
      Rule.othersScript connective regrouped = Rule.othersScript connective members
  | .nil => rfl
  | .kept front behind => by
      rw [othersScript_cons, othersScript_cons, front.script, behind.othersScript]
  | .dissolved group behind => by
      rw [othersScript_append, group.othersScript, behind.othersScript, ← script_combined,
        othersScript_cons]

end

variable {setting : Setting}

mutual

/-- The second rule is the first with other rules behind the member that ends a combined rule when
the first is run from the session. -/
inductive Exchanged (setting : Setting) : Session → Rule → Rule → Prop where
  | same {session : Session} {rule : Rule} : Exchanged setting session rule rule
  | combined {session : Session} {connective : Connective} {first newFirst : Rule}
      {others newOthers : List Rule} :
      MembersExchanged setting connective session (first :: others) (newFirst :: newOthers) →
      Exchanged setting session (.combined connective first others)
        (.combined connective newFirst newOthers)

inductive MembersExchanged (setting : Setting) :
    Connective → Session → List Rule → List Rule → Prop where
  | nil {connective : Connective} {session : Session} :
      MembersExchanged setting connective session [] []
  | passed {connective : Connective} {session after : Session} {member newMember : Rule}
      {members newMembers : List Rule} {answer : Bool} :
      Exchanged setting session member newMember →
      member.script.run setting session = (.ok answer, after) → answer ≠ connective.decider →
      MembersExchanged setting connective after members newMembers →
      MembersExchanged setting connective session (member :: members) (newMember :: newMembers)
  | decided {connective : Connective} {session : Session} {member newMember : Rule}
      {members newMembers : List Rule} :
      Exchanged setting session member newMember →
      (member.script.run setting session).1 = .ok connective.decider →
      MembersExchanged setting connective session (member :: members) (newMember :: newMembers)
  | failed {connective : Connective} {session : Session} {member newMember : Rule}
      {members newMembers : List Rule} {error : Error} :
      Exchanged setting session member newMember →
      (member.script.run setting session).1 = .error error →
      MembersExchanged setting connective session (member :: members) (newMember :: newMembers)

end

section Row

variable {connective : Connective} {session after : Session} {member : Rule} {members : List Rule}

theorem othersScript_run_passed {answer : Bool}
    (comes : member.script.run setting session = (.ok answer, after))
    (passes : answer ≠ connective.decider) :
    (othersScript connective (member :: members)).run setting session =
      (othersScript connective members).run setting after := by
  rw [othersScript_cons, run_bind_of_ok comes, if_neg passes]

theorem othersScript_run_decided
    (decides : (member.script.run setting session).1 = .ok connective.decider) :
    (othersScript connective (member :: members)).run setting session =
      member.script.run setting session := by
  have comes : member.script.run setting session =
      (.ok connective.decider, (member.script.run setting session).2) := Prod.ext decides rfl
  rw [othersScript_cons, run_bind_of_ok comes, if_pos rfl, run, ← comes]

theorem othersScript_run_failed {error : Error}
    (fails : (member.script.run setting session).1 = .error error) :
    (othersScript connective (member :: members)).run setting session =
      member.script.run setting session := by
  have comes : member.script.run setting session =
      (.error error, (member.script.run setting session).2) := Prod.ext fails rfl
  rw [othersScript_cons, run_bind, comes]

end Row

mutual

theorem Exchanged.run {session : Session} {rule exchanged : Rule} :
    Exchanged setting session rule exchanged →
      exchanged.script.run setting session = rule.script.run setting session
  | .same => rfl
  | .combined members => by rw [script_combined, script_combined, members.run]

theorem MembersExchanged.run {connective : Connective} {session : Session}
    {members exchanged : List Rule} :
    MembersExchanged setting connective session members exchanged →
      (Rule.othersScript connective exchanged).run setting session =
        (Rule.othersScript connective members).run setting session
  | .nil => rfl
  | .passed front comes passes behind => by
      rw [othersScript_run_passed comes passes, ← behind.run]
      exact othersScript_run_passed (front.run.trans comes) passes
  | .decided front decides => by
      rw [othersScript_run_decided decides, ← front.run]
      exact othersScript_run_decided (by rwa [front.run])
  | .failed front fails => by
      rw [othersScript_run_failed fails, ← front.run]
      exact othersScript_run_failed (by rwa [front.run])

end

/-- Regrouping members of one connective changes nothing that a run shows, in any setting and from
any session; nor does exchanging rules that a run does not come to. -/
theorem run_of_regrouped_exchanged (setting : Setting) (session : Session) (rule : Rule) :
    (∀ regrouped, Regrouped rule regrouped →
      regrouped.script.run setting session = rule.script.run setting session) ∧
    ∀ exchanged, Exchanged setting session rule exchanged →
      exchanged.script.run setting session = rule.script.run setting session := by
  constructor
  · intro regrouped regroups
    rw [regroups.script]
  · intro exchanged exchanges
    exact exchanges.run

/-- Groups are dissolved at two depths, and a rule that cannot be resolved stands behind a deciding
member in an inner group as well as in the outer one. -/
theorem run_of_regrouped_exchanged_nested :
    ∃ rule regrouped exchanged : Rule,
      regrouped.same rule = false ∧ exchanged.same rule = false ∧
      rule.evaluate ⟨.null, .strict, fun _ => .zero⟩ = .ok false ∧
      regrouped.evaluate ⟨.null, .strict, fun _ => .zero⟩ = .ok false ∧
      exchanged.evaluate ⟨.null, .strict, fun _ => .zero⟩ = .ok false := by
  let setting : Setting := ⟨.null, .strict, fun _ => .zero⟩
  let holds : Rule := .negation (.boolean false)
  let fails : Rule := .negation (.boolean true)
  let illegal : Rule := .negation (.string "x")
  let inner (behind : Rule) : Rule := .combined .any fails [.combined .any holds [], behind]
  let rule : Rule := .combined .all holds [.combined .all (inner fails) [holds], fails, holds]
  let regrouped : Rule := .combined .all holds
    [.combined .any fails [holds, fails], holds, fails, holds]
  let exchanged : Rule := .combined .all holds
    [.combined .all (inner illegal) [holds], fails, illegal, illegal]
  have regroups : Regrouped rule regrouped :=
    .combined (.kept .same (.dissolved
      (.kept (.combined (.kept .same (.dissolved (.kept .same .nil) (.kept .same .nil))))
        (.kept .same .nil))
      (.kept .same (.kept .same .nil))))
  have innerExchanges : Exchanged setting .fresh (inner fails) (inner illegal) :=
    .combined (.passed .same rfl nofun (.decided .same rfl))
  have exchanges : Exchanged setting .fresh rule exchanged :=
    .combined (.passed .same rfl nofun (.passed
      (.combined (.passed innerExchanges rfl nofun (.passed .same rfl nofun .nil))) rfl nofun
      (.decided .same rfl)))
  have same := run_of_regrouped_exchanged setting .fresh rule
  have evaluates : rule.evaluate setting = .ok false := rfl
  exact ⟨rule, regrouped, exchanged, by decide, by decide, evaluates,
    (congrArg Prod.fst (same.1 regrouped regroups)).trans evaluates,
    (congrArg Prod.fst (same.2 exchanged exchanges)).trans evaluates⟩

end Rule

end Verdict
