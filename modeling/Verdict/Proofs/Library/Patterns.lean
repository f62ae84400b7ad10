import Verdict.Proofs.Library.Substrings
import Verdict.Proofs.Pattern.Anchoring

/-! What comparing a text with a pattern answers, on an engine that a language describes. A pattern
between anchors compares with the whole of a text, if the group that is put around it is what its
parentheses and comments leave it. -/

set_option autoImplicit false

namespace Verdict

open Pattern

namespace Library

/-- What is reported and answered where a text is compared with a pattern. A pattern that the engine
accepts alone compares with the whole text, unless it ends in a comment, or the engine has no room
for a group and anchors around it. One that the engine refuses alone may be another pattern between
anchors. -/
inductive Compares (engine : Pattern.Engine) (language : Language) (pattern text : String)
    (failure : Failure) : Option Failure → Bool → Prop where
  | whole {alone between : String → Bool} {expression : language.Expression} {answer : Bool} :
      engine.compile? pattern = some alone → language.read? pattern = some expression →
      ¬language.EndsInComment pattern → engine.compile? (anchored pattern) = some between →
      (answer = true ↔ language.Spans expression text 0 text.length) →
      Compares engine language pattern text failure none answer
  | commented {alone : String → Bool} : engine.compile? pattern = some alone →
      language.EndsInComment pattern →
      Compares engine language pattern text failure (some failure) false
  | crowded {alone : String → Bool} {expression : language.Expression} :
      engine.compile? pattern = some alone → ¬language.EndsInComment pattern →
      language.read? (anchored pattern) = some expression →
      engine.compile? (anchored pattern) = none →
      Compares engine language pattern text failure (some failure) false
  | malformed : engine.compile? pattern = none → engine.compile? (anchored pattern) = none →
      Compares engine language pattern text failure (some failure) false
  | broken {between : String → Bool} : engine.compile? pattern = none →
      engine.compile? (anchored pattern) = some between →
      Compares engine language pattern text failure none (between text)

section Comparing

variable {engine : Pattern.Engine} {language : Language} {pattern text : String}
  {failure : Failure}

/-- A pattern that is accepted alone and not refused answers whether the whole text is one of its
spans. -/
theorem Compares.spans_whole {answer : Bool}
    (compares : Compares engine language pattern text failure none answer)
    {alone : String → Bool} (accepted : engine.compile? pattern = some alone)
    {expression : language.Expression} (reads : language.read? pattern = some expression) :
    answer = true ↔ language.Spans expression text 0 text.length := by
  cases compares with
  | whole _ found _ _ spans => rwa [← Option.some.inj (reads.symm.trans found)] at spans
  | broken refused =>
      rw [accepted] at refused
      cases refused

theorem compares_of_compiled (describes : language.Describes engine) {between : String → Bool}
    (compiled : engine.compile? (anchored pattern) = some between) :
    Compares engine language pattern text failure none (between text) := by
  cases accepted : engine.compile? pattern with
  | none => exact .broken accepted compiled
  | some alone =>
      obtain ⟨expression, reads, -⟩ := describes.search accepted
      obtain ⟨outside, spans⟩ := describes.search_anchored reads compiled
      exact .whole accepted reads outside compiled (spans text)

theorem compares_of_refused (describes : language.Describes engine)
    (refused : engine.compile? (anchored pattern) = none) :
    Compares engine language pattern text failure (some failure) false := by
  cases accepted : engine.compile? pattern with
  | none => exact .malformed accepted refused
  | some alone =>
      by_cases within : language.EndsInComment pattern
      · exact .commented accepted within
      · obtain ⟨expression, reads, -⟩ := describes.search accepted
        obtain ⟨whole, wholeReads, -⟩ := describes.read?_anchored reads within
        exact .crowded accepted within wholeReads refused

end Comparing

/-- On every engine that a language describes, and where the arguments resolve to texts, the empty
pattern is illegal, and otherwise the text is compared with the pattern. No pattern that is accepted
alone answers anything else than whether it spans the whole text. -/
theorem pattern_compares {engine : Pattern.Engine} {language : Language}
    (describes : language.Describes engine) {setting : Setting} {session afterPattern : Session}
    {pattern : Value} {expression : String}
    (patternComes : (pattern.resolveString "").run setting session =
      (.ok expression, afterPattern)) (subject : Value) :
    ∃ call, (Registry.ofLibrary (standardOn engine)).bind "str.match" [pattern, subject] =
        .ok call ∧
      (expression = "" → call.Gives setting session afterPattern
        (some (.illegal .emptyPattern)) (.boolean false)) ∧
      (expression ≠ "" → ∀ (text : String) (afterText : Session),
        (subject.resolveString "").run setting afterPattern = (.ok text, afterText) →
        ∃ reported answer,
          Compares engine language expression text (.illegal (.malformedPattern expression))
            reported answer ∧
          (reported = none → ∀ alone, engine.compile? expression = some alone →
            ∀ meant, language.read? expression = some meant →
              (answer = true ↔ language.Spans meant text 0 text.length)) ∧
          call.Gives setting session afterText reported (.boolean answer)) := by
  refine ⟨_, Registry.bind_of_resolve rfl, fun without => ?_,
    fun proper text afterText textComes => ?_⟩
  · subst without
    exact Call.gives_of_run (.boolean false) ((Script.run_bind_of_ok patternComes).trans
      (Script.run_report _ _)) rfl
  · have given : ¬expression.isEmpty = true := by rwa [String.isEmpty_iff]
    cases compiled : engine.compile? (anchored expression) with
    | some between =>
        have compares : Compares engine language expression text
            (.illegal (.malformedPattern expression)) none (between text) :=
          compares_of_compiled describes compiled
        refine ⟨none, between text, compares,
          fun _ alone accepted meant => compares.spans_whole accepted,
          Call.gives_of_run (.boolean _) ?_ rfl⟩
        refine (Script.run_bind_of_ok patternComes).trans ?_
        rw [if_neg given]
        refine (Script.run_bind_of_ok textComes).trans ?_
        simp only [compiled]
        rfl
    | none =>
        refine ⟨_, false, compares_of_refused describes compiled, nofun,
          Call.gives_of_run (.boolean false) ?_ rfl⟩
        refine (Script.run_bind_of_ok patternComes).trans ?_
        rw [if_neg given]
        refine (Script.run_bind_of_ok textComes).trans ?_
        simp only [compiled]
        exact Script.run_report _ _

/-- The second branch of a pattern spans a text of one character. -/
theorem pattern_compares_branches :
    let setting : Setting := ⟨.null, .strict, fun _ => .zero⟩
    builtInLanguage.Describes .builtIn ∧
      ((Value.string "a|(?i)b").resolveString "").run setting .fresh = (.ok "a|(?i)b", .fresh) ∧
      ((Value.string "B").resolveString "").run setting .fresh = (.ok "B", .fresh) ∧
      ∃ call, (Registry.ofLibrary (standardOn .builtIn)).bind "str.match"
          [.string "a|(?i)b", .string "B"] = .ok call ∧
        call.Gives setting .fresh .fresh none (.boolean true) := by
  intro setting
  refine ⟨builtInLanguage_describes, rfl, rfl, ?_⟩
  obtain ⟨call, bound, -, compared⟩ := @pattern_compares .builtIn builtInLanguage
    builtInLanguage_describes setting .fresh .fresh (.string "a|(?i)b") "a|(?i)b" rfl (.string "B")
  obtain ⟨reported, answer, compares, -, gives⟩ := compared (by decide) "B" .fresh rfl
  have known : (Engine.builtIn.compile? (anchored "a|(?i)b")).map (· "B") = some true := by
    decide +kernel
  obtain ⟨between, compiled, found⟩ := Option.map_eq_some_iff.mp known
  cases compares with
  | whole _ reads _ _ spans =>
      have spanned := ((builtInLanguage_describes.search_anchored reads compiled).2 "B").mp found
      obtain rfl := spans.mpr spanned
      exact ⟨call, bound, gives⟩
  | commented _ within => exact absurd within (by decide +kernel)
  | crowded _ _ _ refused | malformed _ refused =>
      rw [compiled] at refused
      cases refused
  | broken _ accepted =>
      obtain rfl := Option.some.inj (compiled.symm.trans accepted)
      rw [found] at gives
      exact ⟨call, bound, gives⟩

/-- A pattern may close the group that is put around it and open another, though alone it is
malformed. A comment at its end may keep the group open, though alone it spans the whole text. -/
theorem pattern_meets_its_group :
    (Engine.builtIn.compile? "a)|(b" = none ∧
      ∃ rule : Rule, parseRule .standard "str.match('a)|(b', 'ax') == true" = .ok rule ∧
        rule.evaluate ⟨.null, .strict, fun _ => .zero⟩ = .ok true) ∧
    (∃ alone meant, Engine.builtIn.compile? "(?x)a # letter" = some alone ∧
      builtInLanguage.read? "(?x)a # letter" = some meant ∧
      builtInLanguage.Spans meant "a" 0 "a".length) ∧
      ∃ rule : Rule, parseRule .standard "str.match('(?x)a # letter', 'a') == true" = .ok rule ∧
        rule.evaluate ⟨.null, .strict, fun _ => .zero⟩ ≠ .ok true := by
  obtain ⟨broken, brokenParsed, breaks⟩ :=
    @evaluates_of_quiet "str.match('a)|(b', 'ax') == true" (some true) (by decide +kernel)
  obtain ⟨commented, commentedParsed, comments⟩ :=
    @evaluates_of_quiet "str.match('(?x)a # letter', 'a') == true" none (by decide +kernel)
  refine ⟨⟨Option.isNone_iff_eq_none.mp (by decide +kernel), broken, brokenParsed,
    (breaks true).mpr rfl⟩, ⟨_, ⟨.one (.single 'a'), 1⟩, by rfl, by rfl, rfl, 'a', rfl, by decide⟩,
    commented, commentedParsed, fun evaluated => ?_⟩
  cases (comments true).mp evaluated

end Library

end Verdict
