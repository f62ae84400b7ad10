import Verdict.Proofs.Library.Membership
import Verdict.Proofs.Rule.Binding
import Verdict.Proofs.Session.Truthfulness

/-! Existence checks agree with resolution. They spell an address out, compile the text and look it
up again, and find something exactly where resolving the address misses nothing. So a rule that goes
on only where a check says so never misses a value at that address. -/

set_option autoImplicit false

namespace Verdict

open Script

theorem Path.compile_text (path : Path) : Path.compile path.text = .ok path := by
  unfold Path.compile
  split
  · exact congrArg Except.ok (Path.ext_text rfl)
  · rename_i refused
    exact absurd (path.spelled.symm.trans refused) (by simp)

theorem Pointer.compile_text (pointer : Pointer) : Pointer.compile pointer.text = .ok pointer := by
  unfold Pointer.compile
  split
  · rfl
  · rename_i refused
    exact absurd (pointer.sound.symm.trans refused) (by simp)

theorem Path.text_ne_empty (path : Path) : path.text ≠ "" := by
  intro noText
  have head := path.head?_text
  simp [noText] at head

namespace Address

def dialect : Address → Dialect
  | .path _ => .path
  | .pointer _ => .pointer

theorem compile_text (address : Address) : address.dialect.compile address.text = .ok address := by
  cases address with
  | path place => simp [dialect, text, Dialect.compile, Path.compile_text]
  | pointer place => simp [dialect, text, Dialect.compile, Pointer.compile_text]

/-- The value spells the address out, where its text is asked for: a reference to the address,
whatever it is used as, or the literal of its text. -/
inductive SpelledBy (address : Address) : Value → Prop where
  | reference {role : Option Role} : SpelledBy address (.located role address)
  | literal : SpelledBy address (.string address.text)

end Address

def Dialect.check : Dialect → String
  | .path => "path.exists"
  | .pointer => "pointer.exists"

theorem Value.resolveDatum_located_misses_iff {setting : Setting} {session : Session}
    (faithful : session.Faithful setting.document) (role : Option Role) (address : Address)
    (default : Datum) {text : String} :
    (((located role address).resolveDatum default).run
        { setting with strategy := .strict } session).1 = .error (.missingValue text) ↔
      text = address.text ∧ present? (address.locate setting.document) = none := by
  have walked := (@Script.run_eq_walk _ { setting with strategy := .strict }
    ((located role address).resolveDatum default) _ faithful).1
  rw [walked, resolveDatum, Operand.datumOr, Value.operand]
  simp only [Operand.ofAddress, Address.resolve, Script.bind, Script.walk]
  cases present? (address.locate setting.document) with
  | none => simp [Script.reportMissing, Script.bind, Script.walk, Strategy.strict,
      Strategy.memoryless, Failure.toError, eq_comm]
  | some json => simp [Script.bind, Script.walk]

namespace Library

theorem isPresentAt_quiet {document : Json} {clock : Reading → Number} {address : Address}
    (named : address.text ≠ "") :
    (isPresentAt address.dialect address.text).quiet? document clock =
      some (present? (address.locate document)).isSome := by
  rw [isPresentAt, if_neg (by simpa using named), address.compile_text]
  rfl

theorem existence_quiet {document : Json} {clock : Reading → Number} {address : Address}
    (named : address.text ≠ "") {argument : Value} (spelled : address.SpelledBy argument) :
    ((argument.operand.addressText address.dialect "").bind fun text =>
      (isPresentAt address.dialect text).bind fun answer =>
        .done (Reply.boolean answer)).quiet? document clock =
      some (.boolean (present? (address.locate document)).isSome) := by
  have text : (argument.operand.addressText address.dialect "").quiet? document clock =
      some address.text := by
    cases spelled with
    | reference => cases address <;> rfl
    | literal => cases address <;> rfl
  exact quiet?_bind_eq_some_iff.mpr
    ⟨_, text, quiet?_bind_eq_some_iff.mpr ⟨_, isPresentAt_quiet named, rfl⟩⟩

theorem exists_check {address : Address} (named : address.text ≠ "") {argument : Value}
    (spelled : address.SpelledBy argument) :
    ∃ check, Registry.standard.bind address.dialect.check [argument] = .ok check ∧
      ∀ (setting : Setting) (session : Session), session.Faithful setting.document →
        check.Decides setting session (present? (address.locate setting.document)).isSome := by
  have resolved : Registry.standard.resolve address.dialect.check 1 =
      .ok (.unary address.dialect.check fun operand =>
        (operand.addressText address.dialect "").bind fun text =>
          (isPresentAt address.dialect text).bind fun answer => .done (.boolean answer)) := by
    cases address <;> rfl
  refine ⟨_, Registry.bind_of_resolve resolved, ?_⟩
  intro setting session faithful
  exact Call.decides_of_reply faithful (existence_quiet named spelled)

end Library

/-- What a function reports missing on the document, given operands that report truly, is lacking
there. -/
abbrev Function.ReportsTruly (document : Json) (function : Function) : Prop :=
  function.Obeys fun _ good script => script.Truthful document good

namespace Rule

/-- A rule that goes on with others only if a call answers true. -/
def guarded (role : Option Role) (check : Call) (others : List Rule) : Rule :=
  .combined .all (.binary .equal (.called role check) (.boolean true)) others

variable {setting : Setting} {session : Session} {check : Call} {role : Option Role}
  {others : List Rule}

theorem guarded_comesTo (faithful : session.Faithful setting.document)
    (decides : check.Decides setting session false) :
    (guarded role check others).script.ComesTo setting session false := by
  have checked := (comesTo_iff faithful).mp (decides.datum role .null)
  have refused : (Rule.binary .equal (.called role check) (.boolean true)).script.quiet?
      setting.document setting.clock = some false := by
    rw [script]
    exact quiet?_bind_eq_some_iff.mpr ⟨_, checked, rfl⟩
  apply (comesTo_iff faithful).mpr
  rw [guarded, script]
  exact quiet?_bind_eq_some_iff.mpr ⟨_, refused, rfl⟩

theorem guarded_truthful {document : Json} {functions : List Function}
    (checkBound : check.BoundTo Registry.standard.functions)
    (truly : ∀ function ∈ functions, function.ReportsTruly document)
    (bound : Rule.AllBoundTo functions others) :
    (guarded role check others).script.Truthful document fun _ => True := by
  have law := truthful_law document
  rw [guarded, script]
  refine law.bind (Rule.script_obeys law (Library.standard_obeys law) _ ⟨checkBound, trivial⟩)
    fun answer _ => ?_
  split
  · exact law.pure _
  · exact Rule.othersScript_obeys law truly .all others bound

end Rule

/-- The existence check on an address, by reference or by text, is bound and tells in every session,
without a failure, whether resolving the address strictly would not miss a value. So a rule that the
check guards never misses a value there, if the functions in it report truly what is missing, as
standard functions do. -/
theorem existence_agrees_with_resolution (address : Address) (named : address.text ≠ "")
    {argument : Value} (spelled : address.SpelledBy argument) :
    ∃ check, Registry.standard.bind address.dialect.check [argument] = .ok check ∧
      (∀ (setting : Setting) (operations : List Operation),
        let session := (Operation.performAll setting operations .fresh).2
        (∃ truth, check.Decides setting session truth ∧
          ∀ role default, truth = true ↔ ∀ text,
            (((Value.located role address).resolveDatum default).run
              { setting with strategy := .strict } session).1 ≠ .error (.missingValue text)) ∧
        ∀ (role : Option Role) (functions : List Function) (others : List Rule),
          (∀ function ∈ functions, function.ReportsTruly setting.document) →
          Rule.AllBoundTo functions others →
          (Rule.guarded role check others).script.NeverMisses setting session address.text) ∧
      ∀ (document : Json), ∀ function ∈ Registry.standard.functions,
        function.ReportsTruly document := by
  obtain ⟨check, bound, decides⟩ := Library.exists_check named spelled
  refine ⟨check, bound, ?_, fun document => Library.standard_obeys (truthful_law document)⟩
  intro setting operations session
  have faithful : session.Faithful setting.document :=
    (Operation.performAll_eq_walkAll_of_faithful operations Session.fresh_faithful).2
  constructor
  · refine ⟨_, decides setting session faithful, fun role default => ?_⟩
    simp only [ne_eq, Value.resolveDatum_located_misses_iff faithful, not_and, forall_eq,
      ← Option.isSome_iff_ne_none]
  · intro role functions others truly othersBound
    have decided := decides setting session faithful
    cases present : present? (address.locate setting.document) with
    | none =>
        rw [present] at decided
        exact (Rule.guarded_comesTo faithful decided).neverMisses address.text
    | some json =>
        refine (Rule.guarded_truthful (Registry.boundTo_of_bind bound ?_) truly
          othersBound).neverMisses faithful ?_
        · cases spelled with
          | reference => exact ⟨trivial, trivial⟩
          | literal => exact ⟨trivial, trivial⟩
        · rw [Json.lacks_text_iff, present]
          exact Option.some_ne_none json

/-- Null is missing, and the check that guards a comparison with it tells. -/
theorem existence_agrees_with_resolution_null :
    let document : Json := .object [("a", .null)]
    let setting : Setting := ⟨document, .strict, fun _ => .zero⟩
    ∃ path check, Path.compile "$.a" = .ok path ∧
      Registry.standard.bind "path.exists" [.string "$.a"] = .ok check ∧
      let comparison : Rule :=
        .binary .greater (.located (some .numeric) (.path path)) (.number .zero)
      comparison.evaluate setting = .error (.missingValue "$.a") ∧
      check.Decides setting .fresh false ∧
      (Rule.guarded (some .object) check [comparison]).script.NeverMisses setting .fresh "$.a" := by
  intro document setting
  let path : Path := ⟨"$.a", [.key "a"], rfl⟩
  obtain ⟨check, bound, agrees, truly⟩ :=
    existence_agrees_with_resolution (.path path) path.text_ne_empty .literal
  obtain ⟨⟨truth, decides, tells⟩, never⟩ := agrees setting []
  have missed : (((Value.located none (.path path)).resolveDatum .null).run setting .fresh).1 =
      .error (.missingValue "$.a") := rfl
  obtain rfl : truth = false :=
    Bool.eq_false_iff.mpr fun found => (tells none .null).mp found "$.a" missed
  exact ⟨path, check, path.compile_text, bound, rfl, decides,
    never _ _ _ (truly document) ⟨⟨trivial, trivial⟩, trivial⟩⟩

end Verdict
