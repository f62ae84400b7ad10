import Verdict.Proofs.Number.Exactness
import Verdict.Proofs.Rule.Binding
import Verdict.Proofs.Session.Conclusions
import Verdict.Proofs.Session.Silence
import Verdict.Registry.Discovery
import Verdict.Rule.Parser

/-! Which part of a text its bounds give. A bound is cut toward zero to an integer, or it is no
number and nothing compares with it. -/

set_option autoImplicit false

namespace Verdict

open Number

namespace Library

/-- The characters of a text from one place up to another. -/
def characters (text : String) (start stop : Nat) : String :=
  String.ofList ((text.toList.drop start).take (stop - start))

/-- What is reported and answered where a text is cut at two bounds. Bounds in order within the text
give the characters between them. Where the bounds say nothing to the contrary because one of them
is no number, the answer is empty. -/
inductive CutsOut (text : String) (failure : Failure) :
    Option Extended → Option Extended → Option Failure → String → Prop where
  | within {start stop : Nat} : start ≤ stop → stop ≤ text.length →
      CutsOut text failure (some (.integer start)) (some (.integer stop)) none
        (characters text start stop)
  | noStart {last : Option Extended} : (∀ stop ∈ last, stop ≤ .integer text.length) →
      CutsOut text failure none last none ""
  | noStop {start : Extended} : .integer 0 ≤ start → CutsOut text failure (some start) none none ""
  | below {start : Extended} {last : Option Extended} : start < .integer 0 →
      CutsOut text failure (some start) last (some failure) ""
  | beyond {first : Option Extended} {stop : Extended} : .integer text.length < stop →
      CutsOut text failure first (some stop) (some failure) ""
  | reversed {start stop : Extended} : stop < start →
      CutsOut text failure (some start) (some stop) (some failure) ""

/-- Bounds in order within the text cut out nothing else than the characters between them. -/
theorem CutsOut.eq_of_within {text : String} {failure : Failure} {start stop : Nat}
    {reported : Option Failure} {answer : String} (ordered : start ≤ stop)
    (small : stop ≤ text.length)
    (cuts : CutsOut text failure (some (.integer start)) (some (.integer stop)) reported answer) :
    reported = none ∧ answer = characters text start stop := by
  generalize firstValue : some (Extended.integer start) = first at cuts
  generalize lastValue : some (Extended.integer stop) = last at cuts
  cases cuts with
  | within =>
      simp only [Option.some_inj, Extended.integer_inj, Nat.cast_inj] at firstValue lastValue
      rw [firstValue, lastValue]
      exact ⟨rfl, rfl⟩
  | noStart => cases firstValue
  | noStop => cases lastValue
  | below negative =>
      obtain rfl := Option.some.inj firstValue
      rw [Extended.integer_lt_integer] at negative
      omega
  | beyond large =>
      obtain rfl := Option.some.inj lastValue
      rw [Extended.integer_lt_integer] at large
      omega
  | reversed before =>
      obtain rfl := Option.some.inj firstValue
      obtain rfl := Option.some.inj lastValue
      rw [Extended.integer_lt_integer] at before
      omega

section Cutting

variable {text : String} {start stop : Number}

theorem isNatural_zero : Number.zero.IsNatural 0 := by
  apply StandFor.isNatural
  exact .zero

/-- A text is cut at two numbers as their values say. -/
def CutsAt (text : String) (start stop : Number) : Prop :=
  ∃ reported answer,
    CutsOut text (.illegal (.substringBounds start stop text.length)) start.whole? stop.whole?
      reported answer ∧
    ∀ (setting : Setting) (session : Session),
      (replySubstring text start stop).run setting session =
        session.conclude setting.strategy reported (.string answer)

theorem replySubstring_of_guarded
    (guarded : (start.less .zero || (Number.ofNat text.length).less stop || stop.less start) = true)
    (setting : Setting) (session : Session) :
    (replySubstring text start stop).run setting session = session.conclude setting.strategy
      (some (.illegal (.substringBounds start stop text.length))) (.string "") := by
  simp only [replySubstring, substring, guarded, if_true]
  exact Script.run_report _ _

theorem cutsAt_of_below (startWhole : start.IsWhole) (below : start.less .zero = true) :
    CutsAt text start stop := by
  obtain ⟨first, firstValue, bound, boundValue, negative⟩ :=
    (less_iff_whole startWhole isNatural_zero.isWhole).mp below
  rw [Option.mem_def] at firstValue boundValue
  obtain rfl := Option.some.inj (isNatural_zero.whole.symm.trans boundValue)
  rw [CutsAt, firstValue]
  exact ⟨_, _, .below negative, replySubstring_of_guarded (by simp [below])⟩

theorem cutsAt_of_beyond (short : text.length < 2 ^ 53) (stopWhole : stop.IsWhole)
    (beyond : (Number.ofNat text.length).less stop = true) : CutsAt text start stop := by
  have length := isNatural_ofNat short
  obtain ⟨bound, boundValue, last, lastValue, large⟩ :=
    (less_iff_whole length.isWhole stopWhole).mp beyond
  rw [Option.mem_def] at lastValue boundValue
  obtain rfl := Option.some.inj (length.whole.symm.trans boundValue)
  rw [CutsAt, lastValue]
  exact ⟨_, _, .beyond large, replySubstring_of_guarded (by simp [beyond])⟩

theorem cutsAt_of_reversed (startWhole : start.IsWhole) (stopWhole : stop.IsWhole)
    (reversed : stop.less start = true) : CutsAt text start stop := by
  obtain ⟨last, lastValue, first, firstValue, before⟩ :=
    (less_iff_whole stopWhole startWhole).mp reversed
  rw [Option.mem_def] at lastValue firstValue
  rw [CutsAt, firstValue, lastValue]
  exact ⟨_, _, .reversed before, replySubstring_of_guarded (by simp [reversed])⟩

/-- What the guard of the bounds lets pass. -/
structure Unguarded (text : String) (start stop : Number) : Prop where
  notBelow : ¬start.less .zero = true
  notBeyond : ¬(Number.ofNat text.length).less stop = true
  notReversed : ¬stop.less start = true

namespace Unguarded

variable (unguarded : Unguarded text start stop)

include unguarded

theorem run_replySubstring (setting : Setting) (session : Session) :
    (replySubstring text start stop).run setting session = session.conclude setting.strategy none
      (.string (String.ofList ((text.toList.drop start.toNat).take (stop - start).toNat))) := by
  simp only [replySubstring, substring, unguarded.notBelow, unguarded.notBeyond,
    unguarded.notReversed, Bool.or_false, Bool.false_eq_true, if_false]
  rfl

/-- Without a value on one side the length is that of no number, which counts as zero. -/
theorem run_of_isNaN (unordered : stop.isNaN = true ∨ start.isNaN = true) (setting : Setting)
    (session : Session) :
    (replySubstring text start stop).run setting session =
      session.conclude setting.strategy none (.string "") := by
  rw [unguarded.run_replySubstring, toNat_of_isNaN (isNaN_sub unordered), List.take_zero]

theorem cutsAt_of_noStart (short : text.length < 2 ^ 53) (stopWhole : stop.IsWhole)
    (noStart : start.whole? = none) : CutsAt text start stop := by
  have length := isNatural_ofNat short
  have notBeyond := unguarded.notBeyond
  rw [less_iff_whole length.isWhole stopWhole, length.whole] at notBeyond
  have answered := unguarded.run_of_isNaN (.inr (whole?_eq_none_iff.mp noStart))
  rw [CutsAt, noStart]
  refine ⟨none, "", .noStart fun last found => not_lt.mp fun large => notBeyond ?_, answered⟩
  exact ⟨_, rfl, last, found, large⟩

theorem integer_zero_le (startWhole : start.IsWhole) {first : Extended}
    (firstValue : start.whole? = some first) : .integer 0 ≤ first := by
  have notBelow := unguarded.notBelow
  rw [less_iff_whole startWhole isNatural_zero.isWhole, isNatural_zero.whole] at notBelow
  exact not_lt.mp fun negative => notBelow ⟨first, firstValue, _, rfl, negative⟩

theorem cutsAt_of_noStop (startWhole : start.IsWhole) {first : Extended}
    (firstValue : start.whole? = some first) (noStop : stop.whole? = none) :
    CutsAt text start stop := by
  have answered := unguarded.run_of_isNaN (.inl (whole?_eq_none_iff.mp noStop))
  rw [CutsAt, firstValue, noStop]
  exact ⟨none, "", .noStop (unguarded.integer_zero_le startWhole firstValue), answered⟩

/-- Bounds that have values and pass the guard are places of the text in order. -/
theorem exists_places (short : text.length < 2 ^ 53) (startWhole : start.IsWhole)
    (stopWhole : stop.IsWhole) {first last : Extended} (firstValue : start.whole? = some first)
    (lastValue : stop.whole? = some last) :
    ∃ low high : Nat, low ≤ high ∧ high ≤ text.length ∧ start.IsNatural low ∧
      stop.IsNatural high := by
  have length := isNatural_ofNat short
  have notBeyond := unguarded.notBeyond
  rw [less_iff_whole length.isWhole stopWhole, length.whole] at notBeyond
  have notReversed := unguarded.notReversed
  rw [less_iff_whole stopWhole startWhole] at notReversed
  have nonnegative := unguarded.integer_zero_le startWhole firstValue
  have small : last ≤ .integer text.length := not_lt.mp fun large =>
    notBeyond ⟨_, rfl, last, lastValue, large⟩
  have ordered : first ≤ last := not_lt.mp fun before =>
    notReversed ⟨last, lastValue, first, firstValue, before⟩
  obtain ⟨low, rfl⟩ := Extended.exists_integer nonnegative (ordered.trans small)
  obtain ⟨high, rfl⟩ := Extended.exists_integer (nonnegative.trans ordered) small
  rw [Extended.integer_le_integer] at nonnegative ordered small
  lift low to Nat using nonnegative
  lift high to Nat using by omega
  exact ⟨low, high, by omega, by omega, ⟨firstValue, startWhole⟩, ⟨lastValue, stopWhole⟩⟩

theorem cutsAt_of_places (short : text.length < 2 ^ 53) {low high : Nat} (ordered : low ≤ high)
    (small : high ≤ text.length) (startExact : start.IsNatural low)
    (stopExact : stop.IsNatural high) : CutsAt text start stop := by
  have length := isNatural_sub stopExact startExact ordered (by omega)
  have answered := unguarded.run_replySubstring
  rw [toNat_of_isNatural startExact (by omega), toNat_of_isNatural length (by omega)] at answered
  rw [CutsAt, startExact.whole, stopExact.whole]
  exact ⟨none, _, .within ordered small, answered⟩

end Unguarded

/-- Numbers without fractions cut a text. -/
theorem cutsAt (short : text.length < 2 ^ 53) (startWhole : start.IsWhole)
    (stopWhole : stop.IsWhole) : CutsAt text start stop := by
  by_cases below : start.less .zero = true
  · exact cutsAt_of_below startWhole below
  by_cases beyond : (Number.ofNat text.length).less stop = true
  · exact cutsAt_of_beyond short stopWhole beyond
  by_cases reversed : stop.less start = true
  · exact cutsAt_of_reversed startWhole stopWhole reversed
  have unguarded : Unguarded text start stop := ⟨below, beyond, reversed⟩
  cases firstValue : start.whole? with
  | none => exact unguarded.cutsAt_of_noStart short stopWhole firstValue
  | some first =>
      cases lastValue : stop.whole? with
      | none => exact unguarded.cutsAt_of_noStop startWhole firstValue lastValue
      | some last =>
          obtain ⟨low, high, ordered, small, startExact, stopExact⟩ :=
            unguarded.exists_places short startWhole stopWhole firstValue lastValue
          exact unguarded.cutsAt_of_places short ordered small startExact stopExact

/-- The parts before and after a place make up the text. -/
theorem characters_append (text : String) (place : Nat) :
    characters text 0 place ++ characters text place text.length = text := by
  have rest : (text.toList.drop place).take (text.length - place) = text.toList.drop place := by
    apply List.take_of_length_le
    rw [List.length_drop, String.length_toList]
  rw [characters, characters, List.drop_zero, Nat.sub_zero, rest, ← String.ofList_append,
    List.take_append_drop, String.ofList_toList]

end Cutting

/-- What a rule text evaluates to without data is what its rule comes to when nothing fails. -/
theorem evaluates_of_quiet {text : String} {outcome : Option Bool}
    (computed : (parseRule .standard text).toOption.any (fun rule =>
      rule.script.quiet? .null (fun _ => .zero) == outcome) = true) :
    ∃ rule : Rule, parseRule .standard text = .ok rule ∧
      ∀ answer, rule.evaluate ⟨.null, .strict, fun _ => .zero⟩ = .ok answer ↔
        outcome = some answer := by
  cases parsed : parseRule .standard text with
  | error fault =>
      rw [parsed] at computed
      cases computed
  | ok rule =>
      rw [parsed] at computed
      refine ⟨rule, rfl, fun answer => ?_⟩
      rw [Rule.evaluate_strict_eq_ok_iff, beq_iff_eq.mp computed]

section Calls

variable {setting : Setting} {session afterText afterStart : Session} {subject start : Value}
  {text : String} {first : Number}

theorem cutsOut_to_end (short : text.length < 2 ^ 53)
    (textComes : (subject.resolveString "").run setting session = (.ok text, afterText))
    (startComes : (start.resolveNumber .zero).run setting afterText = (.ok first, afterStart)) :
    ∃ call reported answer,
      Registry.standard.bind "str.substr" [subject, start] = .ok call ∧
      CutsOut text
        (.illegal (.substringBounds first.truncate (.ofNat text.length) text.length))
        first.whole? (some (.integer text.length)) reported answer ∧
      call.Gives setting session afterStart reported (.string answer) := by
  have length := isNatural_ofNat short
  obtain ⟨kept, startWhole⟩ := truncate_spec first
  obtain ⟨reported, answer, cuts, ends⟩ := cutsAt short startWhole length.isWhole
  rw [kept, length.whole] at cuts
  refine ⟨_, reported, answer, Registry.bind_of_resolve rfl, cuts,
    Call.gives_of_run (.string answer) ?_ rfl⟩
  exact (Script.run_bind_of_ok textComes).trans
    ((Script.run_bind_of_ok startComes).trans (ends setting afterStart))

theorem cutsOut_between (short : text.length < 2 ^ 53)
    (textComes : (subject.resolveString "").run setting session = (.ok text, afterText))
    (startComes : (start.resolveNumber .zero).run setting afterText = (.ok first, afterStart))
    {stop : Value} {last : Number} {afterStop : Session}
    (stopComes : (stop.resolveNumber (.ofNat text.length)).run setting afterStart =
      (.ok last, afterStop)) :
    ∃ call reported answer,
      Registry.standard.bind "str.substr" [subject, start, stop] = .ok call ∧
      CutsOut text (.illegal (.substringBounds first.truncate last.truncate text.length))
        first.whole? last.whole? reported answer ∧
      call.Gives setting session afterStop reported (.string answer) := by
  obtain ⟨startKept, startWhole⟩ := truncate_spec first
  obtain ⟨stopKept, stopWhole⟩ := truncate_spec last
  obtain ⟨reported, answer, cuts, ends⟩ := cutsAt short startWhole stopWhole
  rw [startKept, stopKept] at cuts
  refine ⟨_, reported, answer, Registry.bind_of_resolve rfl, cuts,
    Call.gives_of_run (.string answer) ?_ rfl⟩
  exact (Script.run_bind_of_ok textComes).trans ((Script.run_bind_of_ok startComes).trans
    ((Script.run_bind_of_ok stopComes).trans (ends setting afterStop)))

end Calls

/-- Where the arguments resolve to a text of fewer than `2^53` characters and to numbers, a
substring is what the bounds cut out, the whole rest without a second bound. At most one failure is
reported. Two parts that meet in the text make it up. -/
theorem substrings_cut_out {setting : Setting} {session afterText afterStart : Session}
    {subject start : Value} {text : String} {first : Number} (short : text.length < 2 ^ 53)
    (textComes : (subject.resolveString "").run setting session = (.ok text, afterText))
    (startComes : (start.resolveNumber .zero).run setting afterText = (.ok first, afterStart)) :
    (∃ call reported answer,
      Registry.standard.bind "str.substr" [subject, start] = .ok call ∧
      CutsOut text
        (.illegal (.substringBounds first.truncate (.ofNat text.length) text.length))
        first.whole? (some (.integer text.length)) reported answer ∧
      call.Gives setting session afterStart reported (.string answer)) ∧
    (∀ (stop : Value) (last : Number) (afterStop : Session),
      (stop.resolveNumber (.ofNat text.length)).run setting afterStart = (.ok last, afterStop) →
      ∃ call reported answer,
        Registry.standard.bind "str.substr" [subject, start, stop] = .ok call ∧
        CutsOut text (.illegal (.substringBounds first.truncate last.truncate text.length))
          first.whole? last.whole? reported answer ∧
        call.Gives setting session afterStop reported (.string answer)) ∧
    ∀ place ≤ text.length, ∃ front back before behind,
      Registry.standard.bind "str.substr"
        [.string text, .number .zero, .number (.ofNat place)] = .ok front ∧
      Registry.standard.bind "str.substr" [.string text, .number (.ofNat place)] = .ok back ∧
      front.Gives setting session session none (.string before) ∧
      back.Gives setting session session none (.string behind) ∧ before ++ behind = text := by
  refine ⟨cutsOut_to_end short textComes startComes,
    fun stop last afterStop stopComes => cutsOut_between short textComes startComes stopComes,
    fun place small => ?_⟩
  have cut := isNatural_ofNat (small.trans_lt short)
  obtain ⟨front, reported, before, frontBound, frontCuts, frontGives⟩ :=
    @cutsOut_between setting session _ _ (.string text) (.number .zero) _ _ short rfl rfl
      (.number (.ofNat place)) _ _ rfl
  obtain ⟨back, further, behind, backBound, backCuts, backGives⟩ :=
    @cutsOut_to_end setting session _ _ (.string text) (.number (.ofNat place)) _ _ short rfl rfl
  simp only [Option.getD_some, isNatural_zero.whole, cut.whole] at frontCuts backCuts
  obtain ⟨rfl, rfl⟩ := frontCuts.eq_of_within (Nat.zero_le place) small
  obtain ⟨rfl, rfl⟩ := backCuts.eq_of_within small le_rfl
  exact ⟨front, back, _, _, frontBound, backBound, frontGives, backGives,
    characters_append text place⟩

/-- Of four characters, the second and third are cut out by 1.5 and 3. -/
theorem substrings_cut_out_fraction :
    let setting : Setting := ⟨.null, .strict, fun _ => .zero⟩
    let start : Number := ⟨0x3FF8000000000000⟩
    "naïf".length < 2 ^ 53 ∧
      ((Value.string "naïf").resolveString "").run setting .fresh = (.ok "naïf", .fresh) ∧
      ((Value.number start).resolveNumber .zero).run setting .fresh = (.ok start, .fresh) ∧
      ∃ call reported answer,
        Registry.standard.bind "str.substr" [.string "naïf", .number start, .number (.ofNat 3)] =
          .ok call ∧
        CutsOut "naïf" (.illegal (.substringBounds start.truncate (Number.ofNat 3).truncate 4))
          start.whole? (Number.ofNat 3).whole? reported answer ∧
        call.Gives setting .fresh .fresh reported (.string answer) := by
  intro setting start
  refine ⟨by decide, rfl, rfl, ?_⟩
  have cut := @substrings_cut_out setting .fresh .fresh .fresh (.string "naïf") (.number start)
    "naïf" start (by decide) rfl rfl
  exact cut.2.1 (.number (.ofNat 3)) _ _ rfl

/-- The difference of two infinities has no value and so is in no order with the bounds of a text.
Its substring is empty all the same, and nothing is reported. -/
theorem substring_of_nan_unreported :
    (Number.infinity - Number.infinity).whole? = none ∧
    ∃ rule : Rule,
      parseRule .standard
        "str.substr('abc', math.sub(math.prod(1e308, 10), math.prod(1e308, 10))) == ''" =
          .ok rule ∧
      rule.evaluate ⟨.null, .strict, fun _ => .zero⟩ = .ok true := by
  obtain ⟨rule, parsed, evaluates⟩ := @evaluates_of_quiet
    "str.substr('abc', math.sub(math.prod(1e308, 10), math.prod(1e308, 10))) == ''" (some true)
    (by decide +kernel)
  exact ⟨whole?_eq_none_iff.mpr (by decide +kernel), rule, parsed, (evaluates true).mpr rfl⟩

end Library

end Verdict
