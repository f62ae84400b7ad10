import Mathlib
import Verdict.Proofs.Rule.Binding
import Verdict.Proofs.Session.Memory
import Verdict.Registry.Discovery

/-! A run sees of its document only what it looks up. The addresses that it looks up depend on what
it has found before, so two documents are compared along the run on the first of them: as long as
each address leads to the same in the second, the run on the second is at the same point. -/

set_option autoImplicit false

namespace Verdict

namespace Session

variable {session : Session} {first second : Json} {address : Address}

theorem lookUp_eq_of_locate (session : Session)
    (same : address.locate first = address.locate second) :
    session.lookUp second address = session.lookUp first address := by
  unfold lookUp
  rw [same]

theorem lookUp_counts :
    (session.lookUp first address).2.hits + (session.lookUp first address).2.misses =
      session.hits + session.misses + 1 := by
  unfold lookUp
  split
  · exact Nat.add_right_comm session.hits 1 session.misses
  · rfl

theorem mem_found_lookUp_iff {text : String} :
    text ∈ (session.lookUp first address).2.found.map Prod.fst ↔
      text = address.text ∨ text ∈ session.found.map Prod.fst := by
  unfold lookUp
  cases remembered : session.found.lookup address.text with
  | some outcome =>
      have known : address.text ∈ session.found.map Prod.fst := by
        obtain ⟨before, after, split, -⟩ := List.lookup_eq_some_iff.mp remembered
        rw [split]
        simp
      constructor
      · exact .inr
      · rintro (rfl | earlier)
        · exact known
        · exact earlier
  | none => exact List.mem_cons

end Session

namespace Script

variable {α : Type}

/-- The addresses that a run looks up, in their order. -/
def lookedUp (setting : Setting) : Script α → Session → List Address
  | .done _, _ => []
  | .fail _, _ => []
  | .look address next, session =>
      let (outcome, session) := session.lookUp setting.document address
      address :: (next outcome).lookedUp setting session
  | .read reading next, session => (next (setting.clock reading)).lookedUp setting session
  | .report failure rest, session =>
      match setting.strategy.judge session.failures failure with
      | some _ => []
      | none => rest.lookedUp setting { session with failures := session.failures ++ [failure] }

theorem run_counts (setting : Setting) (script : Script α) (session : Session) :
    (script.run setting session).2.hits + (script.run setting session).2.misses =
      session.hits + session.misses + (script.lookedUp setting session).length := by
  induction script generalizing session with
  | done value => rfl
  | fail error => rfl
  | look address next ih =>
      have further := ih (session.lookUp setting.document address).1
        (session.lookUp setting.document address).2
      rw [Session.lookUp_counts] at further
      simp only [run, lookedUp, List.length_cons]
      omega
  | read reading next ih => exact ih (setting.clock reading) session
  | report failure rest ih =>
      cases judged : setting.strategy.judge session.failures failure with
      | some error => simp only [run, lookedUp, judged, List.length_nil, Nat.add_zero]
      | none =>
          have further := ih { session with failures := session.failures ++ [failure] }
          simpa only [run, lookedUp, judged] using further

theorem mem_found_run_iff (setting : Setting) (script : Script α) (session : Session)
    {text : String} :
    text ∈ (script.run setting session).2.found.map Prod.fst ↔
      text ∈ session.found.map Prod.fst ∨
        ∃ address ∈ script.lookedUp setting session, address.text = text := by
  induction script generalizing session with
  | done value => simp [run, lookedUp]
  | fail error => simp [run, lookedUp]
  | look address next ih =>
      have further := ih (session.lookUp setting.document address).1
        (session.lookUp setting.document address).2
      rw [Session.mem_found_lookUp_iff] at further
      simp only [run, lookedUp, List.mem_cons, exists_eq_or_imp]
      rw [further, eq_comm, or_comm (a := address.text = text), or_assoc]
  | read reading next ih => exact ih (setting.clock reading) session
  | report failure rest ih =>
      cases judged : setting.strategy.judge session.failures failure with
      | some error => simp [run, lookedUp, judged]
      | none =>
          have further := ih { session with failures := session.failures ++ [failure] }
          simpa only [run, lookedUp, judged] using further

/-- The run on another document is the same run, step by step. -/
theorem run_eq_of_locate {setting : Setting} {document : Json} (script : Script α)
    (session : Session)
    (agree : ∀ address ∈ script.lookedUp setting session,
      address.locate setting.document = address.locate document) :
    script.run { setting with document := document } session = script.run setting session ∧
      script.lookedUp { setting with document := document } session =
        script.lookedUp setting session := by
  induction script generalizing session with
  | done value => exact ⟨rfl, rfl⟩
  | fail error => exact ⟨rfl, rfl⟩
  | look address next ih =>
      obtain ⟨here, behind⟩ := List.forall_mem_cons.mp agree
      -- The sessions have been the same so far, so this look-up leaves them the same.
      have same := Session.lookUp_eq_of_locate session here
      obtain ⟨runs, addresses⟩ := ih (session.lookUp setting.document address).1
        (session.lookUp setting.document address).2 behind
      simp only [run, lookedUp, same]
      exact ⟨runs, congrArg (address :: ·) addresses⟩
  | read reading next ih => exact ih (setting.clock reading) session agree
  | report failure rest ih =>
      cases judged : setting.strategy.judge session.failures failure with
      | some error => simp only [run, lookedUp, judged, and_self]
      | none =>
          simp only [lookedUp, judged] at agree
          simpa only [run, lookedUp, judged] using ih _ agree

end Script

/-- A rule sees a document only through the addresses that it looks up. Where all of them lead to
the same in a second document, it answers or fails there as in the first, reports the same failures
in the same order and has as many look-ups answered from memory and by walking the document. -/
theorem Rule.run_eq_of_lookedUp (rule : Rule) (strategy : Strategy) (clock : Reading → Number)
    (first second : Json)
    (agree : ∀ address ∈ rule.script.lookedUp ⟨first, strategy, clock⟩ .fresh,
      address.locate first = address.locate second) :
    rule.script.run ⟨second, strategy, clock⟩ .fresh =
        rule.script.run ⟨first, strategy, clock⟩ .fresh ∧
      rule.script.lookedUp ⟨second, strategy, clock⟩ .fresh =
        rule.script.lookedUp ⟨first, strategy, clock⟩ .fresh ∧
      (rule.script.run ⟨first, strategy, clock⟩ .fresh).2.hits +
          (rule.script.run ⟨first, strategy, clock⟩ .fresh).2.misses =
        (rule.script.lookedUp ⟨first, strategy, clock⟩ .fresh).length ∧
      ∀ text, text ∈ (rule.script.run ⟨first, strategy, clock⟩ .fresh).2.found.map Prod.fst ↔
        ∃ address ∈ rule.script.lookedUp ⟨first, strategy, clock⟩ .fresh, address.text = text := by
  obtain ⟨runs, addresses⟩ := rule.script.run_eq_of_locate .fresh agree
  refine ⟨runs, addresses, ?_, ?_⟩
  · simpa [Session.fresh] using rule.script.run_counts ⟨first, strategy, clock⟩ .fresh
  · intro text
    simpa [Session.fresh] using rule.script.mem_found_run_iff ⟨first, strategy, clock⟩ .fresh

/-- The second address is read out of the document at the first, and a third one is never reached,
so the documents may differ there. -/
theorem Rule.run_eq_of_lookedUp_computed :
    ∃ rule : Rule, ∃ first second : Json, rule.BoundTo Registry.standard.functions ∧
      (rule.script.run ⟨first, .strict, fun _ => .zero⟩ .fresh).1 = .ok true ∧
      (rule.script.run ⟨first, .strict, fun _ => .zero⟩ .fresh).2.misses = 2 ∧
      rule.script.run ⟨second, .strict, fun _ => .zero⟩ .fresh =
        rule.script.run ⟨first, .strict, fun _ => .zero⟩ .fresh := by
  cases resolved : Library.pathExists.resolve 1 with
  | error error => cases resolved
  | ok overload =>
      let source : Pointer := ⟨"/where", by rfl⟩
      let target : Path := ⟨"$.a", [.key "a"], by rfl⟩
      let unseen : Path := ⟨"$.b", [.key "b"], by rfl⟩
      let present : Value := .called (some .boolean) (.mk "path.exists"
        [.located none (.pointer source)] overload.signature overload.attached
        overload.implementation)
      let rule : Rule := .combined .any (.binary .both present present)
        [.negation (.located (some .boolean) (.path unseen))]
      let first : Json := .object
        [("a", .string "here"), ("b", .boolean true), ("where", .string "$.a")]
      let second : Json := .object [("a", .string "here"), ("where", .string "$.a")]
      have bound : rule.BoundTo Registry.standard.functions := by
        have member : Library.pathExists ∈ Registry.standard.functions := by
          simp [Registry.standard, Registry.ofLibrary, Library.standard, Library.standardOn,
          Library.existences]
        have call : present.BoundTo Registry.standard.functions :=
          ⟨⟨Library.pathExists, member, rfl, resolved⟩, trivial, trivial⟩
        exact ⟨⟨call, call⟩, trivial, trivial⟩
      have texts : (rule.script.lookedUp ⟨first, .strict, fun _ => .zero⟩ .fresh).map Address.text =
          ["/where", "$.a", "/where", "$.a"] := by
        cases resolved
        decide +kernel
      have agree : ∀ address ∈ rule.script.lookedUp ⟨first, .strict, fun _ => .zero⟩ .fresh,
          address.locate first = address.locate second := by
        intro address member
        have listed := List.mem_map_of_mem (f := Address.text) member
        rw [texts] at listed
        have either : address.text = "/where" ∨ address.text = "$.a" := by
          simp only [List.mem_cons, List.not_mem_nil, or_false] at listed
          tauto
        rcases either with text | text
        · obtain rfl : address = .pointer source := Address.eq_of_text text
          cbv
        · obtain rfl : address = .path target := Address.eq_of_text text
          cbv
      refine ⟨rule, first, second, bound, ?_, ?_,
        (Rule.run_eq_of_lookedUp rule .strict _ first second agree).1⟩
      · cases resolved
        cbv
      · cases resolved
        decide +kernel

end Verdict
