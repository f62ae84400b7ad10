import Verdict.Proofs.Library.Laws
import Verdict.Proofs.Text.Pieces

/-! What the declarations without defect are: their names are dotted identifiers, and their
overloads are one variadic overload or overloads of value parameters with different arities. At
most one overload of such a function accepts a number of arguments. -/

set_option autoImplicit false

namespace Verdict

/-- One part of a function name: a letter or an underscore, then letters, digits and underscores. -/
inductive IsNamePart : List Char → Prop where
  | intro {first : Char} {others : List Char} :
      beginsName first = true → (∀ character ∈ others, continuesName character = true) →
      IsNamePart (first :: others)

/-- A dotted identifier: parts with a dot between each two of them. -/
inductive IsDottedName : List Char → Prop where
  | part {part : List Char} : IsNamePart part → IsDottedName part
  | dotted {part rest : List Char} :
      IsNamePart part → IsDottedName rest → IsDottedName (part ++ '.' :: rest)

theorem IsNamePart.dot_not_mem {part : List Char} (isPart : IsNamePart part) : '.' ∉ part := by
  obtain ⟨begins, continues⟩ := isPart
  intro dot
  rcases List.mem_cons.mp dot with rfl | behind
  · exact absurd begins (by decide)
  · exact absurd (continues '.' behind) (by decide)

/-- The test that a function name passes on each of its parts. -/
private def passesPart (part : List Char) : Bool :=
  match part with
  | [] => false
  | first :: others => beginsName first && others.all continuesName

private theorem passesPart_iff {part : List Char} : passesPart part = true ↔ IsNamePart part := by
  constructor
  · intro passes
    cases part with
    | nil => cases passes
    | cons first others =>
        obtain ⟨begins, continues⟩ := Bool.and_eq_true_iff.mp passes
        exact .intro begins (List.all_eq_true.mp continues)
  · rintro ⟨begins, continues⟩
    exact Bool.and_eq_true_iff.mpr ⟨begins, List.all_eq_true.mpr continues⟩

private theorem isDottedName_of_pieces (parts : List (List Char)) {text part : List Char}
    (cut : Text.pieces '.' text = part :: parts)
    (valid : ∀ piece ∈ part :: parts, IsNamePart piece) : IsDottedName text := by
  induction parts generalizing text part with
  | nil =>
      rcases Text.eq_of_pieces cut with ⟨-, rfl⟩ | ⟨rest, -, noPieces⟩
      · exact .part (valid text List.mem_cons_self)
      · exact absurd noPieces (Text.pieces_ne_nil rest)
  | cons next others ih =>
      rcases Text.eq_of_pieces cut with ⟨impossible, -⟩ | ⟨rest, rfl, behind⟩
      · cases impossible
      · exact .dotted (valid part List.mem_cons_self)
          (ih behind fun piece member => valid piece (List.mem_cons_of_mem _ member))

private theorem pieces_of_isDottedName {text : List Char} (dotted : IsDottedName text) :
    ∀ piece ∈ Text.pieces '.' text, IsNamePart piece := by
  induction dotted with
  | part isPart =>
      rw [Text.pieces_of_not_mem isPart.dot_not_mem]
      simpa using isPart
  | dotted isPart _ ih =>
      rw [Text.pieces_append isPart.dot_not_mem]
      exact List.forall_mem_cons.mpr ⟨isPart, ih⟩

theorem isFunctionName_iff {name : String} :
    isFunctionName name = true ↔ IsDottedName name.toList := by
  have tested : isFunctionName name = true ↔
      ∀ piece ∈ Text.pieces '.' name.toList, IsNamePart piece := by
    rw [isFunctionName, List.all_eq_true]
    exact forall₂_congr fun piece _ => passesPart_iff
  rw [tested]
  constructor
  · intro valid
    cases cut : Text.pieces '.' name.toList with
    | nil => exact absurd cut (Text.pieces_ne_nil _)
    | cons part parts => exact isDottedName_of_pieces parts cut (cut ▸ valid)
  · exact pieces_of_isDottedName

namespace Signature

theorem isVariadic_iff {signature : Signature} :
    signature.isVariadic = true ↔ signature = .variadic := by
  cases signature
  simp [isVariadic, variadic]

theorem nativeParameter?_eq_none_iff {signature : Signature} :
    signature.nativeParameter? = none ↔
      ∀ parameter ∈ signature.parameters, parameter = .value ∨ parameter = .valueArray := by
  rw [nativeParameter?, List.findSome?_eq_none_iff]
  refine forall₂_congr fun parameter _ => ?_
  cases parameter <;> simp

/-- A shape without defect is the variadic one or takes value parameters only. -/
theorem defect?_eq_none_iff {signature : Signature} :
    signature.defect? = none ↔ signature = .variadic ∨ ∃ arity, signature = .fixed arity := by
  constructor
  · intro sound
    unfold defect? at sound
    cases native : signature.nativeParameter? with
    | some type => simp [native] at sound
    | none =>
        have plain := nativeParameter?_eq_none_iff.mp native
        by_cases variadic : signature.isVariadic = true
        · exact .inl (isVariadic_iff.mp variadic)
        · have alone : Parameter.valueArray ∉ signature.parameters := by
            simpa [native, variadic] using sound
          have values : ∀ parameter ∈ signature.parameters, parameter = .value := by
            intro parameter member
            rcases plain parameter member with value | array
            · exact value
            · exact absurd (array ▸ member) alone
          refine .inr ⟨signature.parameters.length, ?_⟩
          rw [fixed, ← List.eq_replicate_of_mem values]
  · rintro (rfl | ⟨arity, rfl⟩)
    · rfl
    · have native : (fixed arity).nativeParameter? = none :=
        nativeParameter?_eq_none_iff.mpr fun parameter member =>
          .inl (List.eq_of_mem_replicate member)
      have alone : (fixed arity).parameters.contains .valueArray = false := by simp [fixed]
      simp only [defect?, native, alone, Bool.false_and, Bool.false_eq_true, if_false]

end Signature

theorem firstRepeated?_eq_none_iff {seen members : List Nat} :
    firstRepeated? seen members = none ↔
      members.Nodup ∧ ∀ member ∈ members, member ∉ seen := by
  induction members generalizing seen with
  | nil => simp [firstRepeated?]
  | cons first others ih =>
      by_cases repeated : first ∈ seen
      · simp [firstRepeated?, repeated]
      · simp only [firstRepeated?, repeated, if_false, ih, List.nodup_cons]
        constructor
        · rintro ⟨distinct, fresh⟩
          refine ⟨⟨fun member => fresh first member List.mem_cons_self, distinct⟩, ?_⟩
          exact List.forall_mem_cons.mpr
            ⟨repeated, fun member behind earlier =>
              fresh member behind (List.mem_cons_of_mem _ earlier)⟩
        · rintro ⟨⟨new, distinct⟩, fresh⟩
          refine ⟨distinct, fun member behind earlier => ?_⟩
          rcases List.mem_cons.mp earlier with rfl | before
          · exact new behind
          · exact fresh member (List.mem_cons_of_mem _ behind) before

/-- What a function must be in order to be registered. -/
structure Function.WellFormed (function : Function) : Prop where
  name : IsDottedName function.name.toList
  overloads :
    (∃ overload, function.overloads = [overload] ∧ overload.signature = .variadic) ∨
      (function.overloads ≠ [] ∧
        (∀ overload ∈ function.overloads, ∃ arity, overload.signature = .fixed arity) ∧
        (function.overloads.map fun overload => overload.signature.arity).Nodup)

namespace Function

theorem checks_of_defect?_eq_none {function : Function} (sound : function.defect? = none) :
    isFunctionName function.name = true ∧ function.overloads ≠ [] ∧
      (∀ overload ∈ function.overloads, overload.signature.defect? = none) ∧
      (function.overloads.map Overload.signature).countP Signature.isVariadic ≤ 1 ∧
      ((function.overloads.map Overload.signature).countP Signature.isVariadic = 1 →
        function.overloads.length ≤ 1) ∧
      (function.overloads.map fun overload => overload.signature.arity).Nodup := by
  unfold defect? at sound
  dsimp only at sound
  split at sound
  · cases sound
  rename_i named
  split at sound
  · cases sound
  rename_i nonempty
  split at sound
  · cases sound
  rename_i shapes
  split at sound
  · cases sound
  rename_i few
  split at sound
  · cases sound
  rename_i unmixed
  have distinct := (firstRepeated?_eq_none_iff.mp (Option.map_eq_none_iff.mp sound)).1
  refine ⟨by simpa using named, by simpa using nonempty, ?_, by omega, ?_, ?_⟩
  · intro overload member
    exact List.findSome?_eq_none_iff.mp shapes _ (List.mem_map_of_mem member)
  · intro one
    simpa [one] using unmixed
  · simpa [Function.comp_def] using distinct

/-- No other function than a well-formed one is without defect. -/
theorem wellFormed_of_defect?_eq_none {function : Function} (sound : function.defect? = none) :
    function.WellFormed := by
  obtain ⟨named, nonempty, shapes, few, unmixed, distinct⟩ := checks_of_defect?_eq_none sound
  refine ⟨isFunctionName_iff.mp named, ?_⟩
  by_cases variadic : ∃ overload ∈ function.overloads, overload.signature = .variadic
  · obtain ⟨overload, member, shape⟩ := variadic
    have counted : 0 < (function.overloads.map Overload.signature).countP Signature.isVariadic :=
      List.countP_pos_iff.mpr
        ⟨overload.signature, List.mem_map_of_mem member, Signature.isVariadic_iff.mpr shape⟩
    have single : function.overloads.length = 1 := by
      have short := unmixed (by omega)
      have long := List.length_pos_iff.mpr nonempty
      omega
    obtain ⟨only, alone⟩ := List.length_eq_one_iff.mp single
    rw [alone] at member
    obtain rfl := List.mem_singleton.mp member
    exact .inl ⟨overload, alone, shape⟩
  · refine .inr ⟨nonempty, fun overload member => ?_, distinct⟩
    rcases Signature.defect?_eq_none_iff.mp (shapes overload member) with shape | fixed
    · exact absurd ⟨overload, member, shape⟩ variadic
    · exact fixed

private theorem filter_eq_of_nodup_map {α β : Type} [BEq β] [LawfulBEq β] {key : α → β}
    {members : List α} (distinct : (members.map key).Nodup) (wanted : β) :
    members.filter (fun member => key member == wanted) = [] ∨
      ∃ member, members.filter (fun member => key member == wanted) = [member] := by
  induction members with
  | nil => exact .inl rfl
  | cons first others ih =>
      obtain ⟨new, rest⟩ := List.nodup_cons.mp distinct
      by_cases found : key first = wanted
      · have noOther : others.filter (fun member => key member == wanted) = [] := by
          refine List.filter_eq_nil_iff.mpr fun other member same => new ?_
          rw [found, ← beq_iff_eq.mp same]
          exact List.mem_map_of_mem member
        exact .inr ⟨first, by simp [found, noOther]⟩
      · simpa [List.filter_cons, found] using ih rest

/-- Either exactly one overload of a well-formed function accepts a number of arguments, and it is
chosen, or none does, and that is the error. -/
theorem WellFormed.resolve {function : Function} (wellFormed : function.WellFormed) (count : Nat) :
    (∃ overload,
      function.overloads.filter (fun overload => overload.signature.accepts count) = [overload] ∧
      function.resolve count = .ok overload) ∨
    (function.overloads.filter (fun overload => overload.signature.accepts count) = [] ∧
      function.resolve count = .error (.noMatchingOverload function.name count)) := by
  rcases wellFormed.overloads with ⟨overload, alone, variadic⟩ | ⟨-, fixed, distinct⟩
  · have accepts : overload.signature.isVariadic = true := Signature.isVariadic_iff.mpr variadic
    exact .inl ⟨overload, by simp [alone, Signature.accepts, accepts],
      by simp [Function.resolve, alone, accepts]⟩
  · have plain : ∀ overload ∈ function.overloads, overload.signature.isVariadic = false := by
      intro overload member
      obtain ⟨arity, shape⟩ := fixed overload member
      rw [shape, Signature.isVariadic_fixed]
    have noVariadic :
        function.overloads.find? (fun overload => overload.signature.isVariadic) = none :=
      List.find?_eq_none.mpr fun overload member => by simp [plain overload member]
    have same : function.overloads.filter (fun overload => overload.signature.accepts count) =
        function.overloads.filter (fun overload => overload.signature.arity == count) :=
      List.filter_congr fun overload member => by simp [Signature.accepts, plain overload member]
    rw [same]
    rcases filter_eq_of_nodup_map distinct count with noMatch | ⟨overload, single⟩
    · exact .inr ⟨noMatch, by simp [Function.resolve, noVariadic, noMatch]⟩
    · exact .inl ⟨overload, single, by simp [Function.resolve, noVariadic, single]⟩

end Function

end Verdict
