import Mathlib.Data.List.Forall2
import Verdict.Proofs.Session.Memory

/-! A batch of rules shares one session, and no rule can tell. Under a strategy that judges every
failure by itself, each rule answers in the batch what it answers on its own; the two ways to run a
batch differ only in what ends them. -/

set_option autoImplicit false

namespace Verdict

/-- Every failure is judged by itself, whatever was reported before it. -/
def Strategy.Forgetful (strategy : Strategy) : Prop :=
  ∀ earlier failure, strategy.judge earlier failure = strategy.judge [] failure

namespace Script

variable {α β : Type} {setting : Setting}

theorem walk_bind (setting : Setting) (script : Script α) (next : α → Script β)
    (failures : List Failure) :
    (script.bind next).walk setting failures =
      match script.walk setting failures with
      | (.ok value, after) => (next value).walk setting after
      | (.error error, after) => (.error error, after) := by
  induction script generalizing failures with
  | done value => rfl
  | fail error => rfl
  | look address answer ih => exact ih _ failures
  | read reading answer ih => exact ih _ failures
  | report failure rest ih =>
      cases judged : setting.strategy.judge failures failure with
      | some error => simp only [bind, walk, judged]
      | none => simpa only [bind, walk, judged] using ih (failures ++ [failure])

theorem walk_of_forgetful (forgetful : setting.strategy.Forgetful) (script : Script α)
    (failures : List Failure) : (script.walk setting failures).1 = (script.walk setting []).1 := by
  induction script generalizing failures with
  | done value => rfl
  | fail error => rfl
  | look address answer ih => exact ih _ failures
  | read reading answer ih => exact ih _ failures
  | report failure rest ih =>
      -- The failures differ from here on, but no judgement looks back at them.
      have judgement := forgetful failures failure
      cases judged : setting.strategy.judge [] failure with
      | some error =>
          rw [judged] at judgement
          simp only [walk, judgement, judged]
      | none =>
          rw [judged] at judgement
          simp only [walk, judgement, judged]
          exact (ih (failures ++ [failure])).trans (ih ([] ++ [failure])).symm

/-- What follows a script answers what it answers in a session of its own. -/
theorem run_bind_of_forgetful (forgetful : setting.strategy.Forgetful) (script : Script α)
    (next : α → Script β) :
    ((script.bind next).run setting .fresh).1 =
      (script.run setting .fresh).1.bind fun value => ((next value).run setting .fresh).1 := by
  have fresh := @Session.fresh_faithful setting.document
  rw [(run_eq_walk _ fresh).1, (run_eq_walk _ fresh).1, walk_bind]
  cases walked : script.walk setting Session.fresh.failures with
  | mk result after =>
      cases result with
      | error error => rfl
      | ok value =>
          dsimp only [Except.bind]
          rw [(run_eq_walk _ fresh).1, walk_of_forgetful forgetful]
          rfl

end Script

namespace Rule

variable {setting : Setting}

theorem evaluateAll_cons (forgetful : setting.strategy.Forgetful) (rule : Rule)
    (rules : List Rule) :
    evaluateAll setting (rule :: rules) =
      (rule.evaluate setting).bind fun answer =>
        (evaluateAll setting rules).bind fun answers => .ok (answer :: answers) := by
  simp only [evaluateAll, allScript, List.map_cons, Script.sequence]
  rw [Script.run_bind_of_forgetful forgetful]
  congr 1
  funext answer
  rw [Script.run_bind_of_forgetful forgetful]
  rfl

theorem evaluateFirst_cons (forgetful : setting.strategy.Forgetful) (rule : Rule)
    (rules : List Rule) :
    evaluateFirst setting (rule :: rules) =
      (rule.evaluate setting).bind fun answer =>
        if answer then .ok (some 0)
        else (evaluateFirst setting rules).bind fun index => .ok (index.map (· + 1)) := by
  simp only [evaluateFirst, firstScript]
  rw [Script.run_bind_of_forgetful forgetful]
  congr 1
  funext answer
  cases answer with
  | true => rfl
  | false =>
      simp only [Bool.false_eq_true, if_false]
      rw [Script.run_bind_of_forgetful forgetful]
      rfl

/-- The rule at an index ends a batch, since all rules in front of it pass. -/
def EndsAt (passes ends : Rule → Prop) (rules : List Rule) (index : Nat) : Prop :=
  ∃ earlier rule later, rules = earlier ++ rule :: later ∧ earlier.length = index ∧
    (∀ other ∈ earlier, passes other) ∧ ends rule

theorem endsAt_cons_iff {passes ends : Rule → Prop} {first : Rule} {others : List Rule}
    {index : Nat} :
    EndsAt passes ends (first :: others) index ↔
      index = 0 ∧ ends first ∨
        passes first ∧ ∃ behind, index = behind + 1 ∧ EndsAt passes ends others behind := by
  constructor
  · rintro ⟨earlier, rule, later, split, rfl, pass, last⟩
    cases earlier with
    | nil =>
        obtain ⟨rfl, rfl⟩ := List.cons.inj split
        exact .inl ⟨rfl, last⟩
    | cons front more =>
        obtain ⟨rfl, rfl⟩ := List.cons.inj split
        obtain ⟨passesFirst, passesMore⟩ := List.forall_mem_cons.mp pass
        exact .inr ⟨passesFirst, more.length, rfl, more, rule, later, rfl, rfl, passesMore, last⟩
  · rintro (⟨rfl, last⟩ | ⟨pass, _, rfl, earlier, rule, later, rfl, rfl, passesMore, last⟩)
    · exact ⟨[], first, others, rfl, rfl, by simp, last⟩
    · exact ⟨first :: earlier, rule, later, rfl, rfl, List.forall_mem_cons.mpr ⟨pass, passesMore⟩,
        last⟩

theorem not_endsAt_nil {passes ends : Rule → Prop} {index : Nat} :
    ¬ EndsAt passes ends [] index := by
  rintro ⟨earlier, rule, later, split, -⟩
  simp at split

theorem exists_endsAt_cons_iff {passes ends : Rule → Prop} {first : Rule} {others : List Rule} :
    (∃ index, EndsAt passes ends (first :: others) index) ↔
      ends first ∨ passes first ∧ ∃ index, EndsAt passes ends others index := by
  simp only [endsAt_cons_iff]
  constructor
  · rintro ⟨_, ⟨-, last⟩ | ⟨pass, behind, -, further⟩⟩
    · exact .inl last
    · exact .inr ⟨pass, behind, further⟩
  · rintro (last | ⟨pass, behind, further⟩)
    · exact ⟨0, .inl ⟨rfl, last⟩⟩
    · exact ⟨behind + 1, .inr ⟨pass, behind, rfl, further⟩⟩

private theorem bind_ok_eq_error_iff {α β : Type} {result : Except Error α} {next : α → β}
    {error : Error} :
    (result.bind fun value => .ok (next value)) = .error error ↔ result = .error error := by
  cases result <;> simp [Except.bind]

private theorem bind_ok_eq_ok_iff {α β : Type} {result : Except Error α} {next : α → β}
    {last : β} :
    (result.bind fun value => .ok (next value)) = .ok last ↔
      ∃ value, result = .ok value ∧ next value = last := by
  cases result <;> simp [Except.bind]

theorem evaluateAll_eq_ok_iff (forgetful : setting.strategy.Forgetful) {rules : List Rule}
    {answers : List Bool} :
    evaluateAll setting rules = .ok answers ↔
      List.Forall₂ (fun rule answer => rule.evaluate setting = .ok answer) rules answers := by
  induction rules generalizing answers with
  | nil =>
      rw [List.forall₂_nil_left_iff]
      constructor
      · rintro ⟨⟩
        rfl
      · rintro rfl
        rfl
  | cons first others ih =>
      rw [evaluateAll_cons forgetful, List.forall₂_cons_left_iff]
      cases evaluated : first.evaluate setting with
      | error raised => simp [Except.bind]
      | ok answer =>
          rw [Except.bind, bind_ok_eq_ok_iff]
          simp [ih, eq_comm]

theorem evaluateAll_eq_error_iff (forgetful : setting.strategy.Forgetful) {rules : List Rule}
    {error : Error} :
    evaluateAll setting rules = .error error ↔
      ∃ index, EndsAt (fun other => ∃ answer, other.evaluate setting = .ok answer)
        (fun rule => rule.evaluate setting = .error error) rules index := by
  induction rules with
  | nil =>
      constructor
      · rintro ⟨⟩
      · rintro ⟨index, ends⟩
        exact absurd ends not_endsAt_nil
  | cons first others ih =>
      rw [evaluateAll_cons forgetful, exists_endsAt_cons_iff]
      cases evaluated : first.evaluate setting with
      | error raised => simp [Except.bind]
      | ok answer =>
          rw [Except.bind, bind_ok_eq_error_iff, ih]
          simp

theorem evaluateFirst_eq_some_iff (forgetful : setting.strategy.Forgetful) {rules : List Rule}
    {index : Nat} :
    evaluateFirst setting rules = .ok (some index) ↔
      EndsAt (fun other => other.evaluate setting = .ok false)
        (fun rule => rule.evaluate setting = .ok true) rules index := by
  induction rules generalizing index with
  | nil =>
      constructor
      · rintro ⟨⟩
      · intro ends
        exact absurd ends not_endsAt_nil
  | cons first others ih =>
      rw [evaluateFirst_cons forgetful, endsAt_cons_iff]
      cases evaluated : first.evaluate setting with
      | error raised => simp [Except.bind]
      | ok answer =>
          cases answer with
          | true => simp [Except.bind, eq_comm]
          | false =>
              rw [Except.bind, if_neg Bool.false_ne_true, bind_ok_eq_ok_iff]
              constructor
              · rintro ⟨found, rest, same⟩
                obtain ⟨behind, rfl, rfl⟩ := Option.map_eq_some_iff.mp same
                exact .inr ⟨rfl, behind, rfl, ih.mp rest⟩
              · rintro (⟨-, ⟨⟩⟩ | ⟨-, behind, rfl, further⟩)
                exact ⟨some behind, ih.mpr further, rfl⟩

theorem evaluateFirst_eq_error_iff (forgetful : setting.strategy.Forgetful) {rules : List Rule}
    {error : Error} :
    evaluateFirst setting rules = .error error ↔
      ∃ index, EndsAt (fun other => other.evaluate setting = .ok false)
        (fun rule => rule.evaluate setting = .error error) rules index := by
  induction rules with
  | nil =>
      constructor
      · rintro ⟨⟩
      · rintro ⟨index, ends⟩
        exact absurd ends not_endsAt_nil
  | cons first others ih =>
      rw [evaluateFirst_cons forgetful, exists_endsAt_cons_iff]
      cases evaluated : first.evaluate setting with
      | error raised => simp [Except.bind]
      | ok answer =>
          cases answer with
          | true => simp [Except.bind]
          | false =>
              rw [Except.bind, if_neg Bool.false_ne_true, bind_ok_eq_error_iff, ih]
              simp

theorem evaluateFirst_eq_none_iff (forgetful : setting.strategy.Forgetful) {rules : List Rule} :
    evaluateFirst setting rules = .ok none ↔
      ∀ rule ∈ rules, rule.evaluate setting = .ok false := by
  induction rules with
  | nil => exact ⟨fun _ => by simp, fun _ => rfl⟩
  | cons first others ih =>
      rw [evaluateFirst_cons forgetful, List.forall_mem_cons]
      cases evaluated : first.evaluate setting with
      | error raised => simp [Except.bind]
      | ok answer =>
          cases answer with
          | true => simp [Except.bind]
          | false =>
              rw [Except.bind, if_neg Bool.false_ne_true, bind_ok_eq_ok_iff, ← ih]
              simp

/-- Where every rule answers, the first true one is found at the first true answer. -/
theorem evaluateFirst_of_evaluateAll (forgetful : setting.strategy.Forgetful) {rules : List Rule}
    {answers : List Bool} (answered : evaluateAll setting rules = .ok answers) :
    evaluateFirst setting rules = .ok (answers.findIdx? fun answer => answer) := by
  induction (evaluateAll_eq_ok_iff forgetful).mp answered with
  | nil => rfl
  | @cons rule answer others more evaluated rest ih =>
      rw [evaluateFirst_cons forgetful, evaluated, Except.bind, List.findIdx?_cons]
      cases answer with
      | true => rfl
      | false =>
          rw [if_neg Bool.false_ne_true, if_neg Bool.false_ne_true,
            ih ((evaluateAll_eq_ok_iff forgetful).mpr rest)]
          rfl

/-- A batch answers what its rules answer on their own. Evaluating all of them answers every rule
or fails with the first that fails; looking for the first true one stops there or at the first that
fails, whichever comes first, and finds none if all are false. -/
theorem batch_answers_alone (setting : Setting) (forgetful : setting.strategy.Forgetful)
    (rules : List Rule) :
    (∀ answers, evaluateAll setting rules = .ok answers ↔
      List.Forall₂ (fun rule answer => rule.evaluate setting = .ok answer) rules answers) ∧
    (∀ error, evaluateAll setting rules = .error error ↔
      ∃ index, EndsAt (fun other => ∃ answer, other.evaluate setting = .ok answer)
        (fun rule => rule.evaluate setting = .error error) rules index) ∧
    (∀ index, evaluateFirst setting rules = .ok (some index) ↔
      EndsAt (fun other => other.evaluate setting = .ok false)
        (fun rule => rule.evaluate setting = .ok true) rules index) ∧
    (∀ error, evaluateFirst setting rules = .error error ↔
      ∃ index, EndsAt (fun other => other.evaluate setting = .ok false)
        (fun rule => rule.evaluate setting = .error error) rules index) ∧
    (evaluateFirst setting rules = .ok none ↔
      ∀ rule ∈ rules, rule.evaluate setting = .ok false) ∧
    ∀ answers, evaluateAll setting rules = .ok answers →
      evaluateFirst setting rules = .ok (answers.findIdx? fun answer => answer) :=
  ⟨fun _ => evaluateAll_eq_ok_iff forgetful, fun _ => evaluateAll_eq_error_iff forgetful,
    fun _ => evaluateFirst_eq_some_iff forgetful, fun _ => evaluateFirst_eq_error_iff forgetful,
    evaluateFirst_eq_none_iff forgetful,
    fun _ answered => evaluateFirst_of_evaluateAll forgetful answered⟩

/-- The second rule is true, and the third one fails. -/
theorem batch_answers_alone_strict :
    ∃ setting : Setting, ∃ rules : List Rule, setting.strategy.Forgetful ∧
      evaluateFirst setting rules = .ok (some 1) ∧
      evaluateAll setting rules = .error (.missingValue "$.b") := by
  let present : Value := .located none (.path ⟨"$.a", [.key "a"], by rfl⟩)
  let absent : Value := .located none (.path ⟨"$.b", [.key "b"], by rfl⟩)
  let setting : Setting := ⟨.object [("a", .boolean true)], .strict, fun _ => .zero⟩
  have forgetful : setting.strategy.Forgetful := fun _ _ => rfl
  obtain ⟨-, allFails, firstFinds, -, -, -⟩ := batch_answers_alone setting forgetful
    [.negation present, .binary .both present present, .negation absent]
  refine ⟨setting, _, forgetful, (firstFinds 1).mpr ?_, (allFails _).mpr ⟨2, ?_⟩⟩
  · exact ⟨[_], _, [_], rfl, rfl, List.forall_mem_singleton.mpr rfl, rfl⟩
  · refine ⟨[_, _], _, [], rfl, rfl, ?_, rfl⟩
    exact List.forall_mem_cons.mpr ⟨⟨false, rfl⟩, List.forall_mem_singleton.mpr ⟨true, rfl⟩⟩

end Rule

end Verdict
