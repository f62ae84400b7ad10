import Verdict.Proofs.Address.Accessors
import Verdict.Proofs.Address.Widening
import Verdict.Proofs.Script.Laws

/-! Documents that differ in nothing but how numbers are stored, and scripts that cannot tell them
apart. Such a script may look an address up and be given different nodes, but it goes on in the same
way with both. -/

set_option autoImplicit false

namespace Verdict

/-- Two documents that are the same except for how their numbers are stored, and the clock by which
both are evaluated. -/
structure Twins where
  first : Json
  second : Json
  same : first.widened = second.widened
  clock : Reading → Number

namespace Twins

variable (twins : Twins)

/-- The objects that the values at an address come to are the same, storage included. -/
def Keeps (address : Address) : Prop :=
  (address.locate twins.first).map Json.objects = (address.locate twins.second).map Json.objects

theorem locate_widened (address : Address) :
    (address.locate twins.first).map Json.widened =
      (address.locate twins.second).map Json.widened := by
  rw [← address.locate_widened, ← address.locate_widened, twins.same]

theorem locate_cases (address : Address) :
    address.locate twins.first = none ∧ address.locate twins.second = none ∨
      ∃ left right, address.locate twins.first = some left ∧
        address.locate twins.second = some right ∧ left.widened = right.widened := by
  have same := twins.locate_widened address
  cases first : address.locate twins.first with
  | none =>
      rw [first] at same
      exact .inl ⟨rfl, Option.map_eq_none_iff.mp same.symm⟩
  | some left =>
      rw [first] at same
      obtain ⟨right, second, widened⟩ := Option.map_eq_some_iff.mp same.symm
      exact .inr ⟨left, right, rfl, second, widened.symm⟩

theorem present?_locate (address : Address) :
    (present? (address.locate twins.first)).isSome =
      (present? (address.locate twins.second)).isSome := by
  have found (document : Json) : (present? (address.locate document)).isSome =
      (present? ((address.locate document).map Json.widened)).isSome := by
    rw [Json.present?_map_widened, Option.isSome_map]
  rw [found, found, twins.locate_widened]

end Twins

namespace Script

/-- The run of a script that recovers from every failure takes the same course on both documents and
ends, unless by an error of the script, with a good value. -/
inductive Agrees (twins : Twins) {α : Type} (good : α → Prop) : Script α → Prop where
  | done {value : α} : good value → Agrees twins good (.done value)
  | fail {error : Error} : Agrees twins good (.fail error)
  | look {address : Address} {next : Option Json → Script α} :
      next (address.locate twins.first) = next (address.locate twins.second) →
      Agrees twins good (next (address.locate twins.first)) →
      Agrees twins good (.look address next)
  | read {reading : Reading} {next : Number → Script α} :
      Agrees twins good (next (twins.clock reading)) → Agrees twins good (.read reading next)
  | report {failure : Failure} {rest : Script α} :
      Agrees twins good rest → Agrees twins good (.report failure rest)

/-- What a script comes to in a session of its own if every failure is recovered from. -/
def settled {α : Type} (document : Json) (clock : Reading → Number) (script : Script α) :
    Except Error α :=
  (script.run ⟨document, .injectDefault, clock⟩ .fresh).1

namespace Agrees

variable {twins : Twins} {α β : Type} {good : α → Prop} {better : β → Prop} {script : Script α}

theorem bind {next : α → Script β} (agrees : script.Agrees twins good)
    (follows : ∀ value, good value → (next value).Agrees twins better) :
    (script.bind next).Agrees twins better := by
  induction agrees with
  | done holds => exact follows _ holds
  | fail => exact .fail
  | look same _ ih => exact .look (congrArg (fun script => script.bind next) same) ih
  | read _ ih => exact .read ih
  | report _ ih => exact .report ih

/-- Resolving an address agrees if the same is read in both documents. -/
theorem resolve {address : Address} {expected : JsonKind} {read : Json → Option α}
    {good : Option α → Prop}
    (reads : ∀ left ∈ address.locate twins.first, ∀ right ∈ address.locate twins.second,
      left.widened = right.widened → read left = read right)
    (missing : good none) (found : ∀ json value, read json = some value → good (some value)) :
    (address.resolve expected read).Agrees twins good := by
  have present (json : Json) :
      present? (some json) = if json.kind = .null then none else some json := by
    cases json <;> rfl
  refine .look ?_ ?_
  · obtain ⟨first, second⟩ | ⟨left, right, first, second, same⟩ := twins.locate_cases address
    · rw [first, second]
    · have kinds : left.kind = right.kind := by
        rw [← left.kind_widened, same, right.kind_widened]
      -- A null counts as missing in both, and other values of one kind are read alike.
      rw [first, second, present, present, kinds]
      by_cases nothing : right.kind = .null
      · rw [if_pos nothing, if_pos nothing]
      · rw [if_neg nothing, if_neg nothing]
        simp only [reads left first right second same, kinds]
  · cases present? (address.locate twins.first) with
    | none => exact .report (.done missing)
    | some json =>
        dsimp only
        split
        · rename_i value same
          exact .done (found json value same)
        · exact .report (.done missing)

theorem steps : Steps fun _ good script => script.Agrees twins good where
  done := .done
  bind := bind
  illegal := .report
  isPresent := by
    intro address
    refine .look ?_ (.done trivial)
    rw [Script.bind, Script.bind, twins.present?_locate]
  readClock := .read (.done trivial)

/-- Without a memory, a script that agrees answers and reports the same on both documents. -/
theorem walk_eq (agrees : script.Agrees twins good) (strategy : Strategy)
    (failures : List Failure) :
    script.walk ⟨twins.first, strategy, twins.clock⟩ failures =
      script.walk ⟨twins.second, strategy, twins.clock⟩ failures := by
  induction agrees generalizing failures with
  | done => rfl
  | fail => rfl
  | look same _ ih =>
      -- Both documents give the same continuation, so the answers no longer matter.
      rw [walk, walk, ← same]
      exact ih failures
  | read _ ih => exact ih failures
  | @report failure _ _ ih =>
      rw [walk, walk]
      dsimp only
      cases strategy.judge failures failure with
      | some error => rfl
      | none => exact ih (failures ++ [failure])

theorem run_eq (agrees : script.Agrees twins good) (strategy : Strategy) :
    (script.run ⟨twins.first, strategy, twins.clock⟩ .fresh).1 =
        (script.run ⟨twins.second, strategy, twins.clock⟩ .fresh).1 ∧
      (script.run ⟨twins.first, strategy, twins.clock⟩ .fresh).2.failures =
        (script.run ⟨twins.second, strategy, twins.clock⟩ .fresh).2.failures := by
  have walked (document : Json) :
      (script.run ⟨document, strategy, twins.clock⟩ .fresh).1 =
          (script.walk ⟨document, strategy, twins.clock⟩ []).1 ∧
        (script.run ⟨document, strategy, twins.clock⟩ .fresh).2.failures =
          (script.walk ⟨document, strategy, twins.clock⟩ []).2 := by
    obtain ⟨result, failures, -⟩ := script.run_eq_walk Session.fresh_faithful
    exact ⟨result, failures⟩
  rw [(walked twins.first).1, (walked twins.first).2, (walked twins.second).1,
    (walked twins.second).2, agrees.walk_eq]
  exact ⟨rfl, rfl⟩

theorem walk_settles (agrees : script.Agrees twins good) (failures : List Failure) :
    script.Agrees twins fun value => good value ∧
      (script.walk ⟨twins.first, .injectDefault, twins.clock⟩ failures).1 = .ok value := by
  induction agrees generalizing failures with
  | done holds => exact .done ⟨holds, rfl⟩
  | fail => exact .fail
  | look same _ ih => exact .look same (ih failures)
  | read _ ih => exact .read (ih failures)
  | @report failure _ _ ih => exact .report (ih (failures ++ [failure]))

theorem settles (agrees : script.Agrees twins good) :
    script.Agrees twins fun value => good value ∧
      script.settled twins.first twins.clock = .ok value := by
  have walked : script.settled twins.first twins.clock =
      (script.walk ⟨twins.first, .injectDefault, twins.clock⟩ []).1 :=
    (script.run_eq_walk Session.fresh_faithful).1
  rw [walked]
  exact agrees.walk_settles []

end Agrees

end Script

end Verdict
