import Verdict.Proofs.Script.Laws
import Verdict.Proofs.Session.Silence
import Verdict.Proofs.Session.Strategies

/-! Scripts that call a value missing only where none is: at an address that the document has
nothing but null at. -/

set_option autoImplicit false

namespace Verdict

/-- Nothing lives at the address with the text, or null. -/
def Json.Lacks (document : Json) (text : String) : Prop :=
  ∃ address : Address, address.text = text ∧ present? (address.locate document) = none

theorem Json.lacks_text_iff {document : Json} {address : Address} :
    document.Lacks address.text ↔ present? (address.locate document) = none := by
  constructor
  · rintro ⟨other, texts, absent⟩
    rwa [← Address.eq_of_text texts]
  · exact fun absent => ⟨address, rfl, absent⟩

namespace Script

/-- Every missing value that the script reports on the document, or fails with, is lacking there. -/
inductive Truthful (document : Json) {α : Type} (good : α → Prop) : Script α → Prop where
  | done {value : α} : good value → Truthful document good (.done value)
  | fail {error : Error} :
      (∀ text, error = .missingValue text → document.Lacks text) →
      Truthful document good (.fail error)
  | look {address : Address} {next : Option Json → Script α} :
      Truthful document good (next (address.locate document)) →
      Truthful document good (.look address next)
  | read {reading : Reading} {next : Number → Script α} :
      (∀ number, Truthful document good (next number)) → Truthful document good (.read reading next)
  | report {failure : Failure} {rest : Script α} :
      (∀ text, failure = .missing text → document.Lacks text) →
      Truthful document good rest → Truthful document good (.report failure rest)

variable {α β : Type} {document : Json} {good : α → Prop} {better : β → Prop}

theorem Truthful.bind {script : Script α} {next : α → Script β}
    (truthful : script.Truthful document good)
    (follows : ∀ value, good value → (next value).Truthful document better) :
    (script.bind next).Truthful document better := by
  induction truthful with
  | done holds => exact follows _ holds
  | fail lacks => exact .fail lacks
  | look _ ih => exact .look ih
  | read _ ih => exact .read ih
  | report lacks _ ih => exact .report lacks ih

theorem truthful_law (document : Json) :
    Law fun _ good script => script.Truthful document good where
  done := .done
  bind := .bind
  illegal := .report (by simp)
  lookUp := .look (.done trivial)
  readClock := .read fun _ => .done trivial
  resolve := by
    intro α good address expected read absent found
    refine .look ?_
    cases present : present? (address.locate document) with
    | none =>
        refine .report (fun text same => ?_) (.done absent)
        cases same
        exact Json.lacks_text_iff.mpr present
    | some json =>
        dsimp only
        split
        · rename_i value same
          exact .done (found json value same)
        · exact .report (by simp) (.done absent)

/-- What a truthful script reports is truthful, and so is an error, unless the strategy makes it of
a failure. -/
theorem Truthful.walk {setting : Setting} {script : Script α}
    (truthful : script.Truthful setting.document good) (failures : List Failure) :
    ∃ calls, (script.walk setting failures).2 = failures ++ calls ∧
      (∀ text, .missing text ∈ calls → setting.document.Lacks text) ∧
      ∀ error, (script.walk setting failures).1 = .error error →
        (∀ text, error = .missingValue text → setting.document.Lacks text) ∨
          ∃ earlier, ∃ failure ∈ calls, setting.strategy.judge earlier failure = some error := by
  induction truthful generalizing failures with
  | done holds => exact ⟨[], (List.append_nil _).symm, by simp, by simp [Script.walk]⟩
  | fail lacks =>
      refine ⟨[], (List.append_nil _).symm, by simp, fun error same => .inl ?_⟩
      cases same
      exact lacks
  | look _ ih => exact ih failures
  | read _ ih => exact ih _ failures
  | @report failure rest lacks _ ih =>
      cases judged : setting.strategy.judge failures failure with
      | some error =>
          simp only [Script.walk, judged]
          refine ⟨[failure], rfl, ?_, ?_⟩
          · intro text member
            exact lacks text (List.mem_singleton.mp member).symm
          · rintro _ ⟨rfl⟩
            exact .inr ⟨failures, failure, List.mem_cons_self, judged⟩
      | none =>
          simp only [Script.walk, judged]
          obtain ⟨calls, same, callsLack, raised⟩ := ih (failures ++ [failure])
          refine ⟨failure :: calls, by rw [same, List.append_assoc]; rfl, ?_, ?_⟩
          · intro text member
            rcases List.mem_cons.mp member with here | behind
            · exact lacks text here.symm
            · exact callsLack text behind
          · intro error ends
            refine (raised error ends).imp_right ?_
            rintro ⟨earlier, other, member, raises⟩
            exact ⟨earlier, other, List.mem_cons_of_mem _ member, raises⟩

/-- In a session, a script calls nothing missing that has the text, and unless the strategy makes
other errors of failures than their own, it does not end with such an error either. -/
structure NeverMisses (setting : Setting) (session : Session) (script : Script α) (text : String) :
    Prop where
  calls : ∃ calls, (script.run setting session).2.failures = session.failures ++ calls ∧
    .missing text ∉ calls
  result : ∀ kinds, setting.strategy.RaisesExactly kinds →
    (script.run setting session).1 ≠ .error (.missingValue text)

theorem ComesTo.neverMisses {setting : Setting} {session : Session} {script : Script α}
    {value : α} (comes : script.ComesTo setting session value) (text : String) :
    script.NeverMisses setting session text where
  calls := ⟨[], by rw [comes.failures, List.append_nil], by simp⟩
  result := by simp [comes.result]

theorem Truthful.neverMisses {setting : Setting} {session : Session}
    (faithful : session.Faithful setting.document) {script : Script α}
    (truthful : script.Truthful setting.document good) {text : String}
    (present : ¬ setting.document.Lacks text) : script.NeverMisses setting session text := by
  obtain ⟨result, failures, -⟩ := script.run_eq_walk faithful
  obtain ⟨calls, same, lacks, raised⟩ := truthful.walk session.failures
  constructor
  case calls => exact ⟨calls, failures.trans same, fun member => present (lacks text member)⟩
  case result =>
    intro kinds raises ends
    rw [result] at ends
    rcases raised _ ends with own | ⟨earlier, failure, member, judged⟩
    · exact present (own text rfl)
    · -- A failure that is raised as a missing value is one.
      rw [raises] at judged
      split at judged
      · cases failure with
        | missing missed =>
            cases judged
            exact present (lacks _ member)
        | mismatch => cases judged
        | illegal => cases judged
      · cases judged

end Script

end Verdict
