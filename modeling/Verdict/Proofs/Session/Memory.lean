import Verdict.Session

/-! A session remembers what address texts led to, and nobody can tell: every operation answers and
reports what it would if each look-up walked the document. No text spells both a path and a pointer,
so what is remembered under a text is what the one address with that text leads to. -/

set_option autoImplicit false

namespace Verdict

theorem Path.head?_text (path : Path) : path.text.toList.head? = some '$' := by
  have spelled := path.spelled
  unfold pathSteps at spelled
  split at spelled
  · rename_i rest same
    rw [same, List.head?_cons]
  · cases spelled

theorem Pointer.head?_text_ne (pointer : Pointer) : pointer.text.toList.head? ≠ some '$' := by
  intro dollar
  have sound := pointer.sound
  obtain ⟨rest, same⟩ := List.head?_eq_some_iff.mp dollar
  simp [defect?, same] at sound

/-- An address is determined by its text, whichever of the two ways it is spelled in. -/
theorem Address.eq_of_text {left right : Address} (texts : left.text = right.text) :
    left = right := by
  cases left with
  | path left =>
      cases right with
      | path right => exact congrArg Address.path (Path.ext_text texts)
      | pointer right =>
          have dollar := left.head?_text
          rw [show left.text = right.text from texts] at dollar
          exact absurd dollar right.head?_text_ne
  | pointer left =>
      cases right with
      | path right =>
          have dollar := right.head?_text
          rw [← show left.text = right.text from texts] at dollar
          exact absurd dollar left.head?_text_ne
      | pointer right => exact congrArg Address.pointer (Pointer.ext_text texts)

namespace Session

/-- Every remembered text is that of an address and is remembered with what the address leads to. -/
def Faithful (document : Json) (session : Session) : Prop :=
  ∀ entry ∈ session.found, ∃ address : Address,
    address.text = entry.1 ∧ address.locate document = entry.2

variable {document : Json} {session : Session}

theorem fresh_faithful : fresh.Faithful document := by simp [Faithful, fresh]

theorem Faithful.locate {entry : String × Option Json} (faithful : session.Faithful document)
    (remembered : entry ∈ session.found) {address : Address} (texts : address.text = entry.1) :
    address.locate document = entry.2 := by
  obtain ⟨known, sameText, located⟩ := faithful entry remembered
  rw [Address.eq_of_text (texts.trans sameText.symm)]
  exact located

theorem Faithful.lookUp (faithful : session.Faithful document) (address : Address) :
    (session.lookUp document address).1 = address.locate document ∧
      (session.lookUp document address).2.failures = session.failures ∧
      (session.lookUp document address).2.Faithful document := by
  cases remembered : session.found.lookup address.text with
  | some outcome =>
      have entry : (address.text, outcome) ∈ session.found := by
        obtain ⟨before, after, split, -⟩ := List.lookup_eq_some_iff.mp remembered
        rw [split]
        exact List.mem_append_right _ List.mem_cons_self
      have located := faithful.locate entry rfl
      simp only [Session.lookUp, remembered]
      exact ⟨located.symm, trivial, faithful⟩
  | none =>
      simp only [Session.lookUp, remembered]
      refine ⟨trivial, trivial, ?_⟩
      intro entry member
      rcases List.mem_cons.mp member with rfl | earlier
      · exact ⟨address, rfl, rfl⟩
      · exact faithful entry earlier

end Session

/-- Runs a script without a memory: every look-up walks the document. Answers the failures reported
so far besides the result. -/
def Script.walk {α : Type} (setting : Setting) :
    Script α → List Failure → Except Error α × List Failure
  | .done value, failures => (.ok value, failures)
  | .fail error, failures => (.error error, failures)
  | .look address next, failures =>
      (next (address.locate setting.document)).walk setting failures
  | .read reading next, failures => (next (setting.clock reading)).walk setting failures
  | .report failure rest, failures =>
      match setting.strategy.judge failures failure with
      | some error => (.error error, failures ++ [failure])
      | none => rest.walk setting (failures ++ [failure])

theorem Script.run_eq_walk {α : Type} {setting : Setting} (script : Script α) {session : Session}
    (faithful : session.Faithful setting.document) :
    (script.run setting session).1 = (script.walk setting session.failures).1 ∧
      (script.run setting session).2.failures = (script.walk setting session.failures).2 ∧
      (script.run setting session).2.Faithful setting.document := by
  induction script generalizing session with
  | done value => exact ⟨rfl, rfl, faithful⟩
  | fail error => exact ⟨rfl, rfl, faithful⟩
  | look address next ih =>
      obtain ⟨answer, failures, kept⟩ := faithful.lookUp address
      have further := ih (session.lookUp setting.document address).1 kept
      rw [answer, failures] at further
      simpa only [run, walk, answer] using further
  | read reading next ih => exact ih (setting.clock reading) faithful
  | report failure rest ih =>
      cases judged : setting.strategy.judge session.failures failure with
      | some error =>
          simp only [run, walk, judged]
          exact ⟨trivial, trivial, faithful⟩
      | none =>
          have kept : { session with failures := session.failures ++ [failure] }.Faithful
              setting.document := faithful
          simpa only [run, walk, judged] using ih kept

/-- What can be done in a session. -/
inductive Operation where
  | evaluate (rule : Rule)
  | string (value : Value) (default : String)
  | number (value : Value) (default : Number)
  | boolean (value : Value) (default : Bool)
  | datum (value : Value) (default : Datum)
  | addressText (dialect : Dialect) (value : Value) (default : String)
  | explode (value : Value) (default : List Value)
  | flatten (value : Value) (default : List Datum)
  | invoke (call : Call)
  | lookUp (address : Address)
  | report (failure : Failure)

/-- What an operation answers with. -/
inductive Outcome where
  | boolean (truth : Bool)
  | string (text : String)
  | number (value : Number)
  | datum (value : Datum)
  | values (items : List Value)
  | data (items : List Datum)
  | value (value : Value)
  | found (json : Option Json)
  | recovered

namespace Operation

/-- The script that an operation runs. -/
def script : Operation → Script Outcome
  | .evaluate rule => rule.script.bind fun truth => .done (.boolean truth)
  | .string value default => (value.resolveString default).bind fun text => .done (.string text)
  | .number value default =>
      (value.resolveNumber default).bind fun number => .done (.number number)
  | .boolean value default =>
      (value.resolveBoolean default).bind fun truth => .done (.boolean truth)
  | .datum value default => (value.resolveDatum default).bind fun datum => .done (.datum datum)
  | .addressText dialect value default =>
      (value.resolveAddressText dialect default).bind fun text => .done (.string text)
  | .explode value default => (value.explode default).bind fun items => .done (.values items)
  | .flatten value default => (value.flatten default).bind fun items => .done (.data items)
  | .invoke call => call.invoke.bind fun value => .done (.value value)
  | .lookUp address => (Script.lookUp address).bind fun found => .done (.found found)
  | .report failure => .report failure (.done .recovered)

/-- Performs operations one after another in a session, whether or not they succeed. Answers the
result of each and the failures reported until then. -/
def performAll (setting : Setting) :
    List Operation → Session → List (Except Error Outcome × List Failure) × Session
  | [], session => ([], session)
  | operation :: operations, session =>
      let (result, session) := operation.script.run setting session
      let (results, final) := performAll setting operations session
      ((result, session.failures) :: results, final)

/-- Performs operations one after another without a memory. -/
def walkAll (setting : Setting) :
    List Operation → List Failure → List (Except Error Outcome × List Failure)
  | [], _ => []
  | operation :: operations, failures =>
      let (result, failures) := operation.script.walk setting failures
      (result, failures) :: walkAll setting operations failures

theorem performAll_eq_walkAll_of_faithful {setting : Setting} (operations : List Operation)
    {session : Session} (faithful : session.Faithful setting.document) :
    (performAll setting operations session).1 = walkAll setting operations session.failures ∧
      (performAll setting operations session).2.Faithful setting.document := by
  induction operations generalizing session with
  | nil => exact ⟨rfl, faithful⟩
  | cons operation operations ih =>
      obtain ⟨result, failures, kept⟩ := operation.script.run_eq_walk faithful
      obtain ⟨results, final⟩ := ih kept
      simp only [performAll, walkAll]
      rw [← result, ← failures, ← results]
      exact ⟨rfl, final⟩

/-- The memory of a session is invisible: whatever is done in it answers and reports what it would
without one, and afterwards everything remembered is what the address with that text leads to. -/
theorem performAll_eq_walkAll (setting : Setting) (operations : List Operation) :
    (performAll setting operations .fresh).1 = walkAll setting operations [] ∧
      ∀ entry ∈ (performAll setting operations .fresh).2.found,
        (∃ address : Address, address.text = entry.1) ∧
        ∀ address : Address, address.text = entry.1 →
          address.locate setting.document = entry.2 := by
  obtain ⟨results, faithful⟩ :=
    performAll_eq_walkAll_of_faithful operations (@Session.fresh_faithful setting.document)
  refine ⟨results, ?_⟩
  intro entry remembered
  obtain ⟨address, texts, -⟩ := faithful entry remembered
  exact ⟨⟨address, texts⟩, fun _ same => faithful.locate remembered same⟩

end Operation

end Verdict
