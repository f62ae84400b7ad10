import Verdict.Proofs.Rule.Soundness

/-! What is read from a text holds the overloads of the registry that it was read with: every call
has the one that its name and the number of its arguments are resolved to. -/

set_option autoImplicit false

namespace Verdict

mutual

/-- What the values that are read from texts have in common: no literal is opaque, and every call
has the overload that the registry resolves it to. -/
def Value.ReadIn (registry : Registry) : Value → Prop
  | .array items => Value.AllReadIn registry items
  | .object _ => False
  | .computed _ _ call => Call.ReadIn registry call
  | .called _ call => Call.ReadIn registry call
  | _ => True

def Value.AllReadIn (registry : Registry) : List Value → Prop
  | [] => True
  | value :: values => Value.ReadIn registry value ∧ Value.AllReadIn registry values

def Call.ReadIn (registry : Registry) : Call → Prop
  | .mk name arguments signature attached implementation =>
      registry.resolve name arguments.length = .ok ⟨signature, attached, implementation⟩ ∧
        Value.AllReadIn registry arguments

end

mutual

def Rule.ReadIn (registry : Registry) : Rule → Prop
  | .combined _ first others => Rule.ReadIn registry first ∧ Rule.AllReadIn registry others
  | .negation operand => operand.ReadIn registry
  | .binary _ left right => left.ReadIn registry ∧ right.ReadIn registry

def Rule.AllReadIn (registry : Registry) : List Rule → Prop
  | [] => True
  | rule :: rules => Rule.ReadIn registry rule ∧ Rule.AllReadIn registry rules

end

variable {registry : Registry}

theorem Value.allReadIn_iff {values : List Value} :
    Value.AllReadIn registry values ↔ ∀ value ∈ values, value.ReadIn registry := by
  induction values with
  | nil => simp [Value.AllReadIn]
  | cons first others ih => simp [Value.AllReadIn, ih]

theorem Rule.allReadIn_iff {rules : List Rule} :
    Rule.AllReadIn registry rules ↔ ∀ rule ∈ rules, rule.ReadIn registry := by
  induction rules with
  | nil => simp [Rule.AllReadIn]
  | cons first others ih => simp [Rule.AllReadIn, ih]

namespace Grammar

theorem Spells.readIn {tokens : List Token} {value : Value}
    (spelled : Spells registry tokens value) : value.ReadIn registry := by
  induction spelled with
  | number => trivial
  | truth => trivial
  | string quoted => cases quoted <;> trivial
  | @array items _ ih =>
      refine Value.allReadIn_iff.mpr ?_
      intro value member
      obtain ⟨item, included, rfl⟩ := List.mem_map.mp member
      exact ih item included
  | @call name arguments overload _ resolved ih =>
      refine ⟨by simpa using resolved, Value.allReadIn_iff.mpr ?_⟩
      intro value member
      obtain ⟨argument, included, rfl⟩ := List.mem_map.mp member
      exact ih argument included

theorem Retyped.readIn {role : Role} {operand value : Value}
    (retyped : Retyped role operand value) (read : operand.ReadIn registry) :
    value.ReadIn registry := by
  cases retyped with
  | located => trivial
  | called => exact read
  | literal => exact read

theorem Derives.readIn {level : Level} {tokens : List Token} {rule : Rule}
    (derived : Derives registry level tokens rule) : rule.ReadIn registry := by
  induction derived with
  | enclosed _ ih => exact ih
  | negation spelled typed => exact typed.readIn spelled.readIn
  | binary spelledLeft spelledRight typedLeft typedRight =>
      exact ⟨typedLeft.readIn spelledLeft.readIn, typedRight.readIn spelledRight.readIn⟩
  | single _ ih => exact ih
  | @joined connective first others _ _ ih =>
      refine ⟨ih first (by simp), Rule.allReadIn_iff.mpr ?_⟩
      intro rule member
      obtain ⟨other, included, rfl⟩ := List.mem_map.mp member
      exact ih other (List.mem_cons_of_mem _ included)

end Grammar

theorem readIn_of_parseRule {text : String} {rule : Rule}
    (accepted : parseRule registry text = .ok rule) : rule.ReadIn registry := by
  obtain ⟨spanned, -, parsed⟩ := parseRule_eq_ok_iff.mp accepted
  exact (parseTokens_sound parsed).readIn

end Verdict
