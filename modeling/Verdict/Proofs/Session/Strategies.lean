import Verdict.Proofs.Rule.Binding
import Verdict.Registry.Discovery
import Verdict.Session

/-! Strategies only cut a run short. What a script reports does not depend on the strategy up to the
first failure that the strategy raises, and nothing follows that one. -/

set_option autoImplicit false

namespace Verdict

namespace Strategy

def Recovers (strategy : Strategy) : Prop :=
  ∀ earlier failure, strategy.judge earlier failure = none

/-- The failures of the given kinds are raised as they are, all others are recovered from. -/
def RaisesExactly (strategy : Strategy) (kinds : List FailureKind) : Prop :=
  ∀ earlier failure, strategy.judge earlier failure =
    if failure.kind ∈ kinds then some failure.toError else none

theorem injectDefault_recovers : injectDefault.Recovers := fun _ _ => rfl

theorem Recovers.raisesExactly {strategy : Strategy} (recovers : strategy.Recovers) :
    strategy.RaisesExactly [] := by
  intro earlier failure
  simpa using recovers earlier failure

theorem raising_raisesExactly (kinds : List FailureKind) : (raising kinds).RaisesExactly kinds :=
  fun _ _ => rfl

theorem strict_raisesExactly : strict.RaisesExactly [.missing, .mismatch, .illegal] := by
  intro earlier failure
  cases failure <;> rfl

end Strategy

/-- How the `short` run under a strategy that raises some kinds of failure follows from the `whole`
one, which recovers from all: it is the same if no call is of these kinds, and otherwise ends with
the first call that is. -/
structure Cut {α : Type} (kinds : List FailureKind) (before : List Failure)
    (calls : List Failure) (whole short : Except Error α × Session) : Prop where
  spared : (∀ call ∈ calls, call.kind ∉ kinds) → short = whole
  raised : ∀ earlier call later, calls = earlier ++ call :: later →
    (∀ other ∈ earlier, other.kind ∉ kinds) → call.kind ∈ kinds →
    short.1 = .error call.toError ∧ short.2.failures = before ++ (earlier ++ [call])

namespace Session

theorem failures_lookUp (session : Session) (document : Json) (address : Address) :
    (session.lookUp document address).2.failures = session.failures := by
  unfold lookUp
  split <;> rfl

end Session

namespace Cut

variable {α : Type} {kinds : List FailureKind} {before : List Failure}

theorem nil (run : Except Error α × Session) : Cut kinds before [] run run where
  spared := fun _ => rfl
  raised := by simp

theorem cons_spared {failure : Failure} {calls : List Failure}
    {whole short : Except Error α × Session} (spares : failure.kind ∉ kinds)
    (cut : Cut kinds (before ++ [failure]) calls whole short) :
    Cut kinds before (failure :: calls) whole short where
  spared := fun outside =>
    cut.spared fun call member => outside call (List.mem_cons_of_mem _ member)
  raised := by
    intro earlier call later split others raises
    cases earlier with
    | nil =>
        obtain ⟨rfl, -⟩ := List.cons.inj split
        exact absurd raises spares
    | cons first rest =>
        obtain ⟨rfl, tail⟩ := List.cons.inj split
        have restSpared : ∀ other ∈ rest, other.kind ∉ kinds :=
          fun other member => others other (List.mem_cons_of_mem _ member)
        simpa using cut.raised rest call later tail restSpared raises

theorem cons_raised {failure : Failure} {calls : List Failure}
    {whole short : Except Error α × Session} (raises : failure.kind ∈ kinds)
    (ends : short.1 = .error failure.toError)
    (failures : short.2.failures = before ++ [failure]) :
    Cut kinds before (failure :: calls) whole short where
  spared := fun outside => absurd raises (outside failure List.mem_cons_self)
  raised := by
    intro earlier call later split others _
    cases earlier with
    | nil =>
        obtain ⟨rfl, -⟩ := List.cons.inj split
        exact ⟨ends, by simpa using failures⟩
    | cons first rest =>
        obtain ⟨rfl, -⟩ := List.cons.inj split
        exact absurd raises (others failure List.mem_cons_self)

end Cut

namespace Script

variable {α : Type}

theorem exists_cut (document : Json) (clock : Reading → Number) (script : Script α)
    (session : Session) :
    ∃ calls, (script.run ⟨document, .injectDefault, clock⟩ session).2.failures =
        session.failures ++ calls ∧
      ∀ (kinds : List FailureKind) (strategy : Strategy), strategy.RaisesExactly kinds →
        Cut kinds session.failures calls (script.run ⟨document, .injectDefault, clock⟩ session)
          (script.run ⟨document, strategy, clock⟩ session) := by
  induction script generalizing session with
  | done value => exact ⟨[], by simp [run], fun _ _ _ => .nil _⟩
  | fail error => exact ⟨[], by simp [run], fun _ _ _ => .nil _⟩
  | look address next ih =>
      have further := ih (session.lookUp document address).1 (session.lookUp document address).2
      rwa [Session.failures_lookUp] at further
  | read reading next ih => exact ih (clock reading) session
  | report failure rest ih =>
      obtain ⟨calls, failures, cuts⟩ :=
        ih { session with failures := session.failures ++ [failure] }
      refine ⟨failure :: calls, ?_, ?_⟩
      · simpa [run, Strategy.injectDefault, Strategy.memoryless] using failures
      · intro kinds strategy raises
        by_cases raised : failure.kind ∈ kinds
        · refine .cons_raised raised ?_ ?_
          · simp [run, raises session.failures failure, raised]
          · simp [run, raises session.failures failure, raised]
        · have cut := (cuts kinds strategy raises).cons_spared raised
          simpa [run, raises session.failures failure, raised, Strategy.injectDefault,
            Strategy.memoryless] using cut

theorem Answers.exists_ok {good : α → Prop} {script : Script α} (answers : script.Answers good)
    (document : Json) (clock : Reading → Number) (session : Session) :
    ∃ value, good value ∧
      (script.run ⟨document, .injectDefault, clock⟩ session).1 = .ok value := by
  induction answers generalizing session with
  | @done value holds => exact ⟨value, holds, rfl⟩
  | @look address next _ ih => exact ih _ _
  | @read reading next _ ih => exact ih (clock reading) session
  | @report failure rest _ ih => exact ih { session with failures := session.failures ++ [failure] }

end Script

/-- The answer of a rule in a session of its own, and the failures that it reports. -/
def Rule.observe (setting : Setting) (rule : Rule) : Except Error Bool × List Failure :=
  let (answer, session) := rule.script.run setting .fresh
  (answer, session.failures)

/-- Strategies only cut an evaluation short. What a rule reports and answers under the strategies
that recover decides what it does under every strategy that raises some kinds of failure. -/
theorem Rule.observe_of_recovering {rule : Rule}
    (bound : rule.BoundTo Library.standard.functions) (document : Json)
    (clock : Reading → Number) :
    ∃ calls answer,
      (∀ strategy : Strategy, strategy.Recovers →
        rule.observe ⟨document, strategy, clock⟩ = (.ok answer, calls)) ∧
      (∀ (kinds : List FailureKind) (strategy : Strategy), strategy.RaisesExactly kinds →
        ((∀ call ∈ calls, call.kind ∉ kinds) →
          rule.observe ⟨document, strategy, clock⟩ = (.ok answer, calls)) ∧
        (∀ earlier call later, calls = earlier ++ call :: later →
          (∀ other ∈ earlier, other.kind ∉ kinds) → call.kind ∈ kinds →
          rule.observe ⟨document, strategy, clock⟩ =
            (.error call.toError, earlier ++ [call]))) ∧
      rule.evaluate ⟨document, .strict, clock⟩ =
        (match calls with
          | [] => .ok answer
          | first :: _ => .error first.toError) ∧
      rule.evaluate ⟨document, .injectDefault, clock⟩ = .ok answer := by
  have total := Rule.script_total Library.standard_answersScalar rule bound
  obtain ⟨answer, -, answered⟩ := total.exists_ok document clock .fresh
  obtain ⟨calls, failures, cuts⟩ := rule.script.exists_cut document clock .fresh
  have whole : rule.observe ⟨document, .injectDefault, clock⟩ = (.ok answer, calls) :=
    Prod.ext answered failures
  have spared (kinds : List FailureKind) (strategy : Strategy)
      (raises : strategy.RaisesExactly kinds) (outside : ∀ call ∈ calls, call.kind ∉ kinds) :
      rule.observe ⟨document, strategy, clock⟩ = (.ok answer, calls) := by
    rw [← whole]
    simp only [Rule.observe, (cuts kinds strategy raises).spared outside]
  have raised (kinds : List FailureKind) (strategy : Strategy)
      (raises : strategy.RaisesExactly kinds) (earlier : List Failure) (call : Failure)
      (later : List Failure) (split : calls = earlier ++ call :: later)
      (others : ∀ other ∈ earlier, other.kind ∉ kinds) (first : call.kind ∈ kinds) :
      rule.observe ⟨document, strategy, clock⟩ = (.error call.toError, earlier ++ [call]) := by
    obtain ⟨ends, reported⟩ := (cuts kinds strategy raises).raised earlier call later split others
      first
    exact Prod.ext ends reported
  refine ⟨calls, answer, ?_, ?_, ?_, ?_⟩
  · intro strategy recovers
    exact spared [] strategy recovers.raisesExactly (by simp)
  · intro kinds strategy raises
    exact ⟨spared kinds strategy raises, raised kinds strategy raises⟩
  · cases calls with
    | nil =>
        have observed := spared _ _ Strategy.strict_raisesExactly (by simp)
        exact congrArg Prod.fst observed
    | cons first others =>
        have observed := raised _ _ Strategy.strict_raisesExactly [] first others rfl (by simp)
          (by cases first <;> simp [Failure.kind])
        exact congrArg Prod.fst observed
  · exact congrArg Prod.fst whole

theorem Rule.observe_of_recovering_quotient :
    ∃ rule : Rule, rule.BoundTo Library.standard.functions ∧
      rule.observe ⟨.null, .injectDefault, fun _ => .zero⟩ =
        (.ok true, [.missing "$.a", .illegal .zeroDenominator]) ∧
      rule.observe ⟨.null, .raising [.illegal], fun _ => .zero⟩ =
        (.error (.illegalEvaluation .zeroDenominator),
          [.missing "$.a", .illegal .zeroDenominator]) ∧
      rule.evaluate ⟨.null, .strict, fun _ => .zero⟩ = .error (.missingValue "$.a") := by
  cases resolved : Library.quotient.resolve 2 with
  | error error => cases resolved
  | ok overload =>
      let quotient : Value := .called (some .object) (.mk "math.div"
        [.located none (.path ⟨"$.a", [.key "a"], by rfl⟩), .number .zero]
        overload.signature overload.attached overload.implementation)
      have bound : (Rule.binary .equal quotient (.number .zero)).BoundTo
          Library.standard.functions := by
        refine ⟨⟨⟨Library.quotient, ?_, rfl, resolved⟩, trivial, trivial, trivial⟩, trivial⟩
        simp [Library.standard, Library.standardOn, Library.arithmetic]
      obtain ⟨calls, answer, recovering, raising, strict, -⟩ :=
        Rule.observe_of_recovering bound .null fun _ => .zero
      have observed : (Rule.binary .equal quotient (.number .zero)).observe
          ⟨.null, .injectDefault, fun _ => .zero⟩ =
            (.ok true, [.missing "$.a", .illegal .zeroDenominator]) := by
        cases resolved
        rfl
      have same := recovering .injectDefault Strategy.injectDefault_recovers
      rw [observed] at same
      cases same
      refine ⟨_, bound, observed, ?_, strict⟩
      have cut := (raising [.illegal] _ (Strategy.raising_raisesExactly _)).2
      exact cut [.missing "$.a"] (.illegal .zeroDenominator) [] rfl (by simp [Failure.kind])
        (by simp [Failure.kind])

end Verdict
