import Verdict.Proofs.Number.Spelling
import Verdict.Token.Lexer

/-! The words that the scanner takes for identifiers, stated without it: parts in a row, with a dot
between each two of them. -/

set_option autoImplicit false

namespace Verdict

namespace Token

/-- One part of an identifier. -/
inductive IsPart : List Char → Prop where
  | intro {first : Char} {others : List Char} :
      beginsIdentifier first = true →
      (∀ character ∈ others, Text.isIdentifierContinue character = true) →
      IsPart (first :: others)

/-- The parts behind the first one, each behind its dot. -/
inductive AreParts : List Char → Prop where
  | nil : AreParts []
  | cons {part more : List Char} :
      IsPart part → AreParts more → AreParts ('.' :: (part ++ more))

/-- A dotted identifier. -/
inductive IsDotted : List Char → Prop where
  | intro {part more : List Char} : IsPart part → AreParts more → IsDotted (part ++ more)

/-- What may stand behind an identifier so that the identifier ends there. -/
def EndsIdentifier (rest : List Char) : Prop :=
  ∀ character ∈ rest.head?, Text.isIdentifierContinue character = false ∧ character ≠ '.'

/-- Nothing behind an identifier goes on with it: neither with its last part, nor with a dot and a
further part. -/
structure StopsIdentifier (rest : List Char) : Prop where
  part : ∀ character ∈ rest.head?, Text.isIdentifierContinue character = false
  dot : ∀ behind, rest = '.' :: behind → scanPart? behind = none

theorem EndsIdentifier.stops {rest : List Char} (ends : EndsIdentifier rest) :
    StopsIdentifier rest := by
  refine ⟨fun character member => (ends character member).1, ?_⟩
  intro behind dot
  subst dot
  exact absurd rfl (ends '.' rfl).2

private theorem isPart_of_scanPart? {text part rest : List Char}
    (scanned : scanPart? text = some (part, rest)) : IsPart part := by
  cases text with
  | nil => cases scanned
  | cons first behind =>
      simp only [scanPart?] at scanned
      split at scanned
      · rename_i begins
        cases scanned
        exact .intro begins fun character member => List.mem_takeWhile_imp member
      · cases scanned

private theorem scanPart?_of_isPart {part rest : List Char} (isPart : IsPart part)
    (ends : ∀ character ∈ rest.head?, Text.isIdentifierContinue character = false) :
    scanPart? (part ++ rest) = some (part, rest) := by
  obtain ⟨begins, continues⟩ := isPart
  rename_i first others
  simp [scanPart?, begins, Text.takeWhile_append continues ends,
    Text.dropWhile_append continues ends]

private theorem areParts_of_scanParts (fuel : Nat) (text : List Char) :
    AreParts (scanParts fuel text).1 := by
  induction fuel generalizing text with
  | zero => exact .nil
  | succ fuel ih =>
      unfold scanParts
      split
      · rename_i dotFuel behind same
        obtain rfl : fuel = dotFuel := Nat.succ.inj same
        cases scanned : scanPart? behind with
        | none => exact .nil
        | some found =>
            obtain ⟨part, rest⟩ := found
            exact .cons (isPart_of_scanPart? scanned) (ih rest)
      · exact .nil

private theorem dot_of_areParts {more rest : List Char} (areParts : AreParts more)
    (stops : StopsIdentifier rest) :
    ∀ character ∈ (more ++ rest).head?, Text.isIdentifierContinue character = false := by
  cases areParts with
  | nil => exact stops.part
  | cons isPart others =>
      intro character member
      obtain rfl : '.' = character := by simpa using member
      decide

private theorem scanParts_of_areParts {more rest : List Char} (areParts : AreParts more)
    (stops : StopsIdentifier rest) (fuel : Nat) (enough : more.length ≤ fuel) :
    scanParts fuel (more ++ rest) = (more, rest) := by
  induction areParts generalizing fuel with
  | nil =>
      cases rest with
      | nil => cases fuel <;> rfl
      | cons next behind =>
          unfold scanParts
          split
          · rename_i dotFuel further same
            simp only [List.nil_append] at same
            rw [stops.dot further same, same]
          · rfl
  | @cons part others isPart areOthers ih =>
      cases fuel with
      | zero => simp at enough
      | succ fuel =>
          have scanned : scanPart? (part ++ (others ++ rest)) = some (part, others ++ rest) :=
            scanPart?_of_isPart isPart (dot_of_areParts areOthers stops)
          have further := ih fuel (by simp at enough; omega)
          simp [scanParts, scanned, further]

theorem isDotted_of_scanIdentifier? {text name rest : List Char}
    (scanned : scanIdentifier? text = some (name, rest)) : IsDotted name := by
  unfold scanIdentifier? at scanned
  cases first : scanPart? text with
  | none => simp [first] at scanned
  | some found =>
      obtain ⟨part, behind⟩ := found
      simp only [first] at scanned
      cases scanned
      exact .intro (isPart_of_scanPart? first) (areParts_of_scanParts _ _)

theorem scanIdentifier?_of_isDotted {name rest : List Char} (isDotted : IsDotted name)
    (stops : StopsIdentifier rest) : scanIdentifier? (name ++ rest) = some (name, rest) := by
  obtain ⟨isPart, areParts⟩ := isDotted
  rename_i part more
  have first : scanPart? (part ++ (more ++ rest)) = some (part, more ++ rest) :=
    scanPart?_of_isPart isPart (dot_of_areParts areParts stops)
  have further := scanParts_of_areParts areParts stops (more ++ rest).length (by simp)
  simp only [scanIdentifier?, List.append_assoc, first, further]

private theorem scanPart?_split {text part rest : List Char}
    (scanned : scanPart? text = some (part, rest)) :
    text = part ++ rest ∧
      ∀ character ∈ rest.head?, Text.isIdentifierContinue character = false := by
  cases text with
  | nil => cases scanned
  | cons first behind =>
      simp only [scanPart?, Option.ite_none_right_eq_some, Option.some.injEq, Prod.mk.injEq]
        at scanned
      obtain ⟨-, rfl, rfl⟩ := scanned
      refine ⟨by simp, ?_⟩
      intro character member
      have stops := List.head?_dropWhile_not Text.isIdentifierContinue behind
      rw [Option.mem_def.mp member] at stops
      exact stops

private theorem scanParts_split (fuel : Nat) {text : List Char} (enough : text.length ≤ fuel)
    (stops : ∀ character ∈ text.head?, Text.isIdentifierContinue character = false) :
    text = (scanParts fuel text).1 ++ (scanParts fuel text).2 ∧
      StopsIdentifier (scanParts fuel text).2 := by
  induction fuel generalizing text with
  | zero =>
      obtain rfl : text = [] := List.length_eq_zero_iff.mp (Nat.le_zero.mp enough)
      exact ⟨rfl, stops, nofun⟩
  | succ fuel ih =>
      unfold scanParts
      split
      · rename_i dotFuel behind same
        obtain rfl : fuel = dotFuel := Nat.succ.inj same
        cases scanned : scanPart? behind with
        | none =>
            refine ⟨rfl, stops, ?_⟩
            intro further dot
            rw [← (List.cons.inj dot).2]
            exact scanned
        | some found =>
            obtain ⟨part, rest⟩ := found
            obtain ⟨split, partStops⟩ := scanPart?_split scanned
            have shorter := congrArg List.length split
            rw [List.length_append] at shorter
            rw [List.length_cons] at enough
            obtain ⟨further, furtherStops⟩ := @ih rest (by omega) partStops
            refine ⟨?_, furtherStops⟩
            simp only [List.cons_append, List.append_assoc, ← further, ← split]
      · rename_i noDot
        refine ⟨rfl, stops, ?_⟩
        intro behind dot
        exact absurd dot (noDot fuel behind rfl)

/-- An identifier is taken off the front of a text, up to where nothing goes on with it. -/
theorem split_of_scanIdentifier? {text name rest : List Char}
    (scanned : scanIdentifier? text = some (name, rest)) :
    text = name ++ rest ∧ StopsIdentifier rest := by
  unfold scanIdentifier? at scanned
  cases first : scanPart? text with
  | none => simp [first] at scanned
  | some found =>
      obtain ⟨part, behind⟩ := found
      simp only [first] at scanned
      cases scanned
      obtain ⟨split, partStops⟩ := scanPart?_split first
      obtain ⟨further, stops⟩ := scanParts_split behind.length (Nat.le_refl _) partStops
      refine ⟨?_, stops⟩
      rw [List.append_assoc, ← further, split]

theorem IsDotted.exists_cons {name : List Char} (isDotted : IsDotted name) :
    ∃ first behind, name = first :: behind ∧ beginsIdentifier first = true := by
  obtain ⟨⟨begins, -⟩, -⟩ := isDotted
  exact ⟨_, _, rfl, begins⟩

end Token

end Verdict
