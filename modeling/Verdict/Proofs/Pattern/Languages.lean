import Verdict.Library.Strings

/-! What an engine makes of the texts of patterns. A language says which expression a text reads as
and which spans the expression has, whatever an engine refuses for its size. An engine that is
described by a language searches for these spans, and the language reads groups, anchors and
comments as regular expressions have them. No more is asked of an engine. -/

set_option autoImplicit false

namespace Verdict

open Library (anchored)

namespace Pattern

/-- Positions in a text count its characters. -/
structure Language where
  Expression : Type
  read? : String → Option Expression
  Spans : Expression → String → Nat → Nat → Prop

/-- The text of a pattern in an unnamed group. -/
def grouped (pattern : String) : String := "(?:" ++ pattern ++ ")"

theorem anchored_eq_grouped (pattern : String) :
    anchored pattern = "^" ++ grouped pattern ++ "$" := by
  rw [anchored, grouped, ← String.toList_inj]
  simp

namespace Language

variable (language : Language)

/-- Behind a whole pattern a closing parenthesis has no group to close, so it can be read in a
comment alone. -/
def EndsInComment (pattern : String) : Prop :=
  (language.read? (pattern ++ ")")).isSome = true

instance (pattern : String) : Decidable (language.EndsInComment pattern) :=
  inferInstanceAs (Decidable (_ = true))

structure Describes (engine : Engine) : Prop where
  /-- What is compiled can be read, and texts are searched for its spans. -/
  search {text : String} {search : String → Bool} : engine.compile? text = some search →
    ∃ expression, language.read? text = some expression ∧
      ∀ subject : String, search subject = true ↔
        ∃ start stop, start ≤ stop ∧ stop ≤ subject.length ∧
          language.Spans expression subject start stop
  /-- A pattern has the same spans in a group. -/
  group {pattern : String} {expression : language.Expression} :
    language.read? pattern = some expression → ¬language.EndsInComment pattern →
    ∃ group, language.read? (grouped pattern) = some group ∧
      ∀ subject start stop, language.Spans group subject start stop ↔
        language.Spans expression subject start stop
  /-- In front of a group a caret demands the start of the text. -/
  caret {pattern : String} {expression group : language.Expression} :
    language.read? pattern = some expression → ¬language.EndsInComment pattern →
    language.read? (grouped pattern) = some group →
    ∃ begun, language.read? ("^" ++ grouped pattern) = some begun ∧
      ∀ subject start stop, language.Spans begun subject start stop ↔
        start = 0 ∧ language.Spans group subject start stop
  /-- Behind such a group a dollar sign demands the end of the text. -/
  dollar {pattern : String} {expression begun : language.Expression} :
    language.read? pattern = some expression → ¬language.EndsInComment pattern →
    language.read? ("^" ++ grouped pattern) = some begun →
    ∃ ended, language.read? ("^" ++ grouped pattern ++ "$") = some ended ∧
      ∀ subject start stop, language.Spans ended subject start stop ↔
        stop = subject.length ∧ language.Spans begun subject start stop
  /-- A whole pattern does not close the group that was opened in front of it. -/
  unclosed {pattern : String} {expression : language.Expression} :
    language.read? pattern = some expression → language.read? ("^(?:" ++ pattern) = none
  /-- A comment goes on to the end of its line, over whatever is put there. -/
  comment {pattern : String} {expression : language.Expression} :
    language.read? pattern = some expression → language.EndsInComment pattern →
    language.read? (anchored pattern) = language.read? ("^(?:" ++ pattern)

namespace Describes

variable {language : Language} {engine : Engine} {pattern : String}
  {expression : language.Expression}

theorem read?_anchored (describes : language.Describes engine)
    (reads : language.read? pattern = some expression)
    (outside : ¬language.EndsInComment pattern) :
    ∃ whole, language.read? (anchored pattern) = some whole ∧
      ∀ subject start stop, language.Spans whole subject start stop ↔
        start = 0 ∧ stop = subject.length ∧ language.Spans expression subject start stop := by
  obtain ⟨group, groupReads, groupSpans⟩ := describes.group reads outside
  obtain ⟨begun, begunReads, begunSpans⟩ := describes.caret reads outside groupReads
  obtain ⟨ended, endedReads, endedSpans⟩ := describes.dollar reads outside begunReads
  rw [anchored_eq_grouped]
  refine ⟨ended, endedReads, fun subject start stop => ?_⟩
  rw [endedSpans, begunSpans, groupSpans, and_left_comm]

theorem read?_anchored_of_comment (describes : language.Describes engine)
    (reads : language.read? pattern = some expression)
    (within : language.EndsInComment pattern) : language.read? (anchored pattern) = none :=
  (describes.comment reads within).trans (describes.unclosed reads)

/-- Between anchors a pattern is searched for as a whole, unless a comment keeps its group open. -/
theorem search_anchored (describes : language.Describes engine)
    (reads : language.read? pattern = some expression) {search : String → Bool}
    (compiled : engine.compile? (anchored pattern) = some search) :
    ¬language.EndsInComment pattern ∧ ∀ subject : String,
      search subject = true ↔ language.Spans expression subject 0 subject.length := by
  obtain ⟨between, betweenReads, searches⟩ := describes.search compiled
  have outside : ¬language.EndsInComment pattern := by
    intro within
    rw [describes.read?_anchored_of_comment reads within] at betweenReads
    cases betweenReads
  refine ⟨outside, fun subject => ?_⟩
  obtain ⟨whole, wholeReads, spans⟩ := describes.read?_anchored reads outside
  obtain rfl := Option.some.inj (betweenReads.symm.trans wholeReads)
  simp only [searches, spans]
  constructor
  · rintro ⟨_, _, -, -, rfl, rfl, found⟩
    exact found
  · intro found
    exact ⟨0, subject.length, Nat.zero_le _, Nat.le_refl _, rfl, rfl, found⟩

end Describes

end Language

end Pattern

end Verdict
