import Verdict.Proofs.Pattern.Groups
import Verdict.Proofs.Pattern.Languages
import Verdict.Proofs.Pattern.Spans

/-! The language of the built-in engine: what a text reads as, whatever the limits say to it, and
the spans of that. It describes the engine as languages should. -/

set_option autoImplicit false

namespace Verdict

namespace Pattern

/-- What a text alone reads as, whatever the limits say to it. -/
def partOf? (text : List Char) : Option Part :=
  match readBranches? (text.length + 1) {} [] [] [] text with
  | some (part, _, []) => some part
  | _ => none

def builtInLanguage : Language where
  Expression := Part
  read? text := partOf? text.toList
  Spans part subject := part.pattern.Spans subject.toList

theorem partOf?_eq_some_iff {text : List Char} {part : Part} :
    partOf? text = some part ↔
      ∃ names, readBranches? (text.length + 1) {} [] [] [] text = some (part, names, []) := by
  rw [partOf?]
  rcases readBranches? (text.length + 1) {} [] [] [] text with _ | ⟨found, names, _ | _⟩ <;> simp

/-- What the engine accepts is what can be read and is within the limits. -/
theorem ofText?_eq_some_iff {text : List Char} {pattern : Pattern} :
    ofText? text = some pattern ↔
      ∃ part, partOf? text = some part ∧
        (part.nesting ≤ greatestNesting ∧ part.pattern.weight ≤ greatestWeight) ∧
        part.pattern = pattern := by
  rw [ofText?, partOf?]
  rcases readBranches? (text.length + 1) {} [] [] [] text with _ | ⟨found, names, _ | _⟩ <;>
    simp [and_assoc]

section Reading

variable (fuel : Nat) (names : List (List Char)) (items : List Item) (rest : List Char)

theorem readBranches?_group :
    readBranches? (fuel + 1) {} names items [] ('(' :: '?' :: ':' :: rest) =
      match readBranches? fuel {} names [] [] rest with
      | some (inner, names, ')' :: rest) =>
          readBranches? fuel {} names
            (.piece { inner with nesting := inner.nesting + 1 } :: items) [] rest
      | _ => none := rfl

theorem readBranches?_caret :
    readBranches? (fuel + 1) {} names items [] ('^' :: rest) =
      readBranches? fuel {} names (.piece ⟨.look .textStart, 0⟩ :: items) [] rest := rfl

end Reading

theorem isClosing_parenthesis : IsClosing [')'] := ⟨⟨[], rfl⟩, by decide, by decide, by decide⟩

theorem isClosing_anchor : IsClosing [')', '$'] := ⟨⟨['$'], rfl⟩, by decide, by decide, by decide⟩

section Behind

variable {text : List Char} {part : Part}

/-- What closes a group is left behind a whole pattern, or taken into the comment at its end. -/
theorem readBranches?_behind (read : partOf? text = some part) :
    ∃ names further, Continued [] further ∧ ∀ tail, IsClosing tail → ∀ fuel, text.length < fuel →
      readBranches? fuel {} [] [] [] (text ++ tail) = some (part, names, further tail) := by
  obtain ⟨names, found⟩ := partOf?_eq_some_iff.mp read
  have within : (readBranches? (text.length + 1) {} [] [] [] text).map paired =
      some ((part, names), []) := by
    rw [found]
    rfl
  obtain ⟨further, onward, reads⟩ :=
    readBranches?_carries {} _ [] [] [] text _ _ _ (.followed text) within
  refine ⟨names, further, onward, fun tail closing fuel enough => ?_⟩
  obtain ⟨⟨_, _, _⟩, there, same⟩ := Option.map_eq_some_iff.mp (reads tail closing)
  cases same
  exact Refines.of_le (fun fuel => readBranches?_grows {} fuel [] [] [] _) enough _ there

theorem readBranches?_outside (read : partOf? text = some part)
    (outside : ¬(partOf? (text ++ [')'])).isSome = true) :
    ∃ names, ∀ tail, IsClosing tail → ∀ fuel, text.length < fuel →
      readBranches? fuel {} [] [] [] (text ++ tail) = some (part, names, tail) := by
  obtain ⟨names, further, onward, reads⟩ := readBranches?_behind read
  cases onward with
  | followed => exact ⟨names, reads⟩
  | absorbed =>
      refine absurd ?_ outside
      rw [partOf?, reads _ isClosing_parenthesis _ (by rw [List.length_append]; omega)]
      rfl

theorem readBranches?_within (read : partOf? text = some part)
    (within : (partOf? (text ++ [')'])).isSome = true) :
    ∃ names, ∀ tail, IsClosing tail → ∀ fuel, text.length < fuel →
      readBranches? fuel {} [] [] [] (text ++ tail) = some (part, names, []) := by
  obtain ⟨names, further, onward, reads⟩ := readBranches?_behind read
  cases onward with
  | absorbed => exact ⟨names, reads⟩
  | followed =>
      rw [partOf?, reads _ isClosing_parenthesis _ (by rw [List.length_append]; omega)]
        at within
      cases within

end Behind

theorem spans_textStart {text : List Char} {pattern : Pattern} {start stop : Nat} :
    (Pattern.sequence (.look .textStart) pattern).Spans text start stop ↔
      start = 0 ∧ pattern.Spans text start stop := by
  constructor
  · rintro ⟨middle, ⟨rfl, inside, first⟩, spans⟩
    refine ⟨?_, spans⟩
    cases middle with
    | zero => rfl
    | succ place =>
        have absent := List.getElem?_eq_none_iff.mp (Option.isNone_iff_eq_none.mp first)
        omega
  · rintro ⟨rfl, spans⟩
    exact ⟨0, ⟨rfl, Nat.zero_le _, rfl⟩, spans⟩

theorem spans_textStop {text : List Char} {pattern : Pattern} {start stop : Nat} :
    (Pattern.sequence pattern (.look .textStop)).Spans text start stop ↔
      stop = text.length ∧ pattern.Spans text start stop := by
  constructor
  · rintro ⟨_, spans, rfl, inside, final⟩
    have atEnd := List.getElem?_eq_none_iff.mp (Option.isNone_iff_eq_none.mp final)
    exact ⟨Nat.le_antisymm inside atEnd, spans⟩
  · rintro ⟨rfl, spans⟩
    exact ⟨text.length, spans, rfl, Nat.le_refl _, by simp [Look.holds]⟩

theorem builtInLanguage_read? (text : String) :
    builtInLanguage.read? text = partOf? text.toList := rfl

theorem builtInLanguage_endsInComment_iff {pattern : String} :
    builtInLanguage.EndsInComment pattern ↔
      (partOf? (pattern.toList ++ [')'])).isSome = true := by
  rw [Language.EndsInComment, builtInLanguage_read?, String.toList_append]
  rfl

section Wrapped

variable {pattern : String} {part : Part}

theorem builtInLanguage_grouped (read : builtInLanguage.read? pattern = some part)
    (outside : ¬builtInLanguage.EndsInComment pattern) :
    builtInLanguage.read? (grouped pattern) = some ⟨part.pattern, part.nesting + 1⟩ := by
  rw [builtInLanguage_endsInComment_iff] at outside
  obtain ⟨names, reads⟩ := readBranches?_outside read outside
  have characters : (grouped pattern).toList =
      '(' :: '?' :: ':' :: (pattern.toList ++ [')']) := by simp [grouped]
  rw [builtInLanguage_read?, characters, partOf?, List.length_cons, readBranches?_group,
    reads _ isClosing_parenthesis _ (by simp; omega)]
  rfl

theorem builtInLanguage_begun (read : builtInLanguage.read? pattern = some part)
    (outside : ¬builtInLanguage.EndsInComment pattern) :
    builtInLanguage.read? ("^" ++ grouped pattern) =
      some ⟨.sequence (.look .textStart) part.pattern, part.nesting + 2⟩ := by
  rw [builtInLanguage_endsInComment_iff] at outside
  obtain ⟨names, reads⟩ := readBranches?_outside read outside
  have characters : ("^" ++ grouped pattern).toList =
      '^' :: '(' :: '?' :: ':' :: (pattern.toList ++ [')']) := by simp [grouped]
  rw [builtInLanguage_read?, characters, partOf?, List.length_cons, List.length_cons,
    readBranches?_caret, readBranches?_group, reads _ isClosing_parenthesis _ (by simp; omega)]
  rfl

theorem toList_anchored (pattern : String) :
    (Library.anchored pattern).toList =
      '^' :: '(' :: '?' :: ':' :: (pattern.toList ++ [')', '$']) := by
  simp [Library.anchored]

theorem builtInLanguage_anchored (read : builtInLanguage.read? pattern = some part)
    (outside : ¬builtInLanguage.EndsInComment pattern) :
    builtInLanguage.read? (Library.anchored pattern) =
      some ⟨.sequence (.look .textStart) (.sequence part.pattern (.look .textStop)),
        part.nesting + 2⟩ := by
  rw [builtInLanguage_endsInComment_iff] at outside
  obtain ⟨names, reads⟩ := readBranches?_outside read outside
  rw [builtInLanguage_read?, toList_anchored, partOf?, List.length_cons, List.length_cons,
    readBranches?_caret, readBranches?_group, reads _ isClosing_anchor _ (by simp; omega)]
  rfl

theorem builtInLanguage_anchored_within (read : builtInLanguage.read? pattern = some part)
    (within : builtInLanguage.EndsInComment pattern) :
    builtInLanguage.read? (Library.anchored pattern) = none := by
  rw [builtInLanguage_endsInComment_iff] at within
  obtain ⟨names, reads⟩ := readBranches?_within read within
  rw [builtInLanguage_read?, toList_anchored, partOf?, List.length_cons, List.length_cons,
    readBranches?_caret, readBranches?_group, reads _ isClosing_anchor _ (by simp; omega)]
  rfl

theorem builtInLanguage_unclosed (read : builtInLanguage.read? pattern = some part) :
    builtInLanguage.read? ("^(?:" ++ pattern) = none := by
  obtain ⟨names, found⟩ := partOf?_eq_some_iff.mp read
  have more := Refines.of_le (fun fuel => readBranches?_grows {} fuel [] [] [] pattern.toList)
    (show pattern.toList.length + 1 ≤ pattern.toList.length + 3 by omega) _ found
  have characters : ("^(?:" ++ pattern).toList = '^' :: '(' :: '?' :: ':' :: pattern.toList := by
    simp
  rw [builtInLanguage_read?, characters, partOf?, List.length_cons, List.length_cons,
    readBranches?_caret, readBranches?_group, List.length_cons, List.length_cons, more]
  rfl

end Wrapped

/-- The built-in engine reads groups, anchors and comments as its language should. -/
theorem builtInLanguage_describes : builtInLanguage.Describes .builtIn where
  search := by
    intro text search compiled
    obtain ⟨pattern, accepted, rfl⟩ := Option.map_eq_some_iff.mp compiled
    obtain ⟨part, read, -, rfl⟩ := ofText?_eq_some_iff.mp accepted
    refine ⟨part, read, fun subject => (occursIn_iff part.pattern).trans ?_⟩
    rw [← String.length_toList]
    constructor
    · rintro ⟨start, stop, inside, spans⟩
      have bounds := spans.bounds
      exact ⟨start, stop, bounds.1, by omega, spans⟩
    · rintro ⟨start, stop, ordered, inside, spans⟩
      exact ⟨start, stop, ordered.trans inside, spans⟩
  group := fun read outside => ⟨_, builtInLanguage_grouped read outside, fun _ _ _ => Iff.rfl⟩
  caret := by
    intro pattern part group read outside groupRead
    have same := (builtInLanguage_grouped read outside).symm.trans groupRead
    obtain rfl := Option.some.inj same
    exact ⟨_, builtInLanguage_begun read outside, fun _ _ _ => spans_textStart⟩
  dollar := by
    intro pattern part begun read outside begunRead
    have same := (builtInLanguage_begun read outside).symm.trans begunRead
    obtain rfl := Option.some.inj same
    rw [← anchored_eq_grouped]
    refine ⟨_, builtInLanguage_anchored read outside, fun subject start stop => ?_⟩
    refine spans_textStart.trans ((and_congr_right fun _ => spans_textStop).trans ?_)
    rw [and_left_comm, String.length_toList]
    exact and_congr_right fun _ => spans_textStart.symm
  unclosed := builtInLanguage_unclosed
  comment := fun read within =>
    (builtInLanguage_anchored_within read within).trans (builtInLanguage_unclosed read).symm

end Pattern

end Verdict
