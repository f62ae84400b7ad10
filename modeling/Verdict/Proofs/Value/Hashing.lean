import Verdict.Datum
import Verdict.Proofs.Number.Equality

/-! What tells the fingerprints of equal data apart. A document enters a fingerprint by its text,
and the texts of equal documents differ exactly where zeros in them differ in their signs. -/

set_option autoImplicit false

namespace Verdict

/-- Lists that are equal item by item are of one length. -/
theorem length_eq_of_step {α : Type} {equal : List α → List α → Bool}
    (noLonger : ∀ left lefts, equal (left :: lefts) [] = false)
    (noShorter : ∀ right rights, equal [] (right :: rights) = false)
    (step : ∀ left lefts right rights,
      equal (left :: lefts) (right :: rights) = true → equal lefts rights = true)
    {lefts rights : List α} (holds : equal lefts rights = true) :
    lefts.length = rights.length := by
  induction lefts generalizing rights with
  | nil =>
      cases rights with
      | nil => rfl
      | cons right rights =>
          rw [noShorter] at holds
          cases holds
  | cons left lefts ih =>
      cases rights with
      | nil =>
          rw [noLonger] at holds
          cases holds
      | cons right rights => exact congrArg Nat.succ (ih (step left lefts right rights holds))

/-- Two lists that differ at a place both of them reach. -/
inductive Diverge {α : Type} : List α → List α → Prop where
  | here {left right : α} {lefts rights : List α} :
      left ≠ right → Diverge (left :: lefts) (right :: rights)
  | behind {first : α} {lefts rights : List α} :
      Diverge lefts rights → Diverge (first :: lefts) (first :: rights)

namespace Diverge

variable {α β : Type} {lefts rights : List α}

theorem ne (diverge : Diverge lefts rights) : lefts ≠ rights := by
  induction diverge with
  | here differ => exact fun same => differ (List.cons.inj same).1
  | behind _ ih => exact fun same => ih (List.cons.inj same).2

theorem append (diverge : Diverge lefts rights) (leftBack rightBack : List α) :
    Diverge (lefts ++ leftBack) (rights ++ rightBack) := by
  induction diverge with
  | here differ => exact .here differ
  | behind _ ih => exact .behind ih

theorem prepend (diverge : Diverge lefts rights) (front : List α) :
    Diverge (front ++ lefts) (front ++ rights) := by
  induction front with
  | nil => exact diverge
  | cons first front ih => exact .behind ih

theorem map (diverge : Diverge lefts rights) {image : α → β}
    (injective : Function.Injective image) : Diverge (lefts.map image) (rights.map image) := by
  induction diverge with
  | here differ => exact .here (injective.ne differ)
  | behind _ ih => exact .behind ih

end Diverge

/-- Words that are the same if certain numbers are, and otherwise differ at a place that both
reach, so that they differ whatever stands behind them. -/
structure Tells {α : Type} (leftMarks rightMarks : List Number) (left right : List α) : Prop where
  count : leftMarks.length = rightMarks.length
  words : leftMarks = rightMarks ∧ left = right ∨ leftMarks ≠ rightMarks ∧ Diverge left right

namespace Tells

variable {α β : Type} {leftMarks rightMarks : List Number} {left right : List α}

theorem refl (marks : List Number) (words : List α) : Tells marks marks words words :=
  ⟨rfl, .inl ⟨rfl, rfl⟩⟩

theorem eq_iff (tells : Tells leftMarks rightMarks left right) :
    left = right ↔ leftMarks = rightMarks := by
  rcases tells.words with ⟨marks, words⟩ | ⟨marks, diverge⟩
  · exact iff_of_true words marks
  · exact iff_of_false diverge.ne marks

theorem append (tells : Tells leftMarks rightMarks left right)
    {leftOthers rightOthers : List Number} {leftBack rightBack : List α}
    (others : Tells leftOthers rightOthers leftBack rightBack) :
    Tells (leftMarks ++ leftOthers) (rightMarks ++ rightOthers) (left ++ leftBack)
      (right ++ rightBack) := by
  refine ⟨by simp [tells.count, others.count], ?_⟩
  rcases tells.words with ⟨rfl, rfl⟩ | ⟨marks, diverge⟩
  · rcases others.words with ⟨rfl, rfl⟩ | ⟨marks, diverge⟩
    · exact .inl ⟨rfl, rfl⟩
    · exact .inr ⟨fun same => marks (List.append_cancel_left same), diverge.prepend left⟩
  · refine .inr ⟨fun same => marks ?_, diverge.append leftBack rightBack⟩
    exact (List.append_inj same tells.count).1

theorem behind (tells : Tells leftMarks rightMarks left right) (front : List α) :
    Tells leftMarks rightMarks (front ++ left) (front ++ right) :=
  (refl [] front).append tells

theorem before (tells : Tells leftMarks rightMarks left right) (back : List α) :
    Tells leftMarks rightMarks (left ++ back) (right ++ back) := by
  simpa using tells.append (refl [] back)

theorem map (tells : Tells leftMarks rightMarks left right) {image : α → β}
    (injective : Function.Injective image) :
    Tells leftMarks rightMarks (left.map image) (right.map image) := by
  refine ⟨tells.count, ?_⟩
  rcases tells.words with ⟨marks, words⟩ | ⟨marks, diverge⟩
  · exact .inl ⟨marks, congrArg _ words⟩
  · exact .inr ⟨marks, diverge.map injective⟩

end Tells

namespace JsonNumber

/-- The number itself if it is a decimal that is zero. -/
def zeros : JsonNumber → List Number
  | .whole _ => []
  | .decimal value => if value.isZero then [value] else []

theorem tells {left right : JsonNumber} (equal : left.same right = true) :
    Tells left.zeros right.zeros left.text.toList right.text.toList := by
  cases left <;> cases right
  case whole.whole left right =>
    obtain rfl : left = right := by simpa [same] using equal
    exact .refl _ _
  case decimal.decimal left right =>
    have positive : Number.zero.inJson.toList = ['0', '.', '0'] := by decide +kernel
    have negative : Number.zero.negate.inJson.toList = ['-', '0', '.', '0'] := by decide +kernel
    obtain ⟨-, -, rfl | ⟨rfl, rfl⟩ | ⟨rfl, rfl⟩⟩ := Number.sameValue_iff_eq_or_zeros.mp equal
    · exact .refl _ _
    · refine ⟨rfl, .inr ⟨by decide, ?_⟩⟩
      rw [text, text, positive, negative]
      exact .here (by decide)
    · refine ⟨rfl, .inr ⟨by decide, ?_⟩⟩
      rw [text, text, positive, negative]
      exact .here (by decide)
  all_goals simp [same] at equal

end JsonNumber

namespace Json

mutual

/-- The decimals of a document that are zero, as they follow one another. -/
def zeros : Json → List Number
  | .number value => value.zeros
  | .array items => itemZeros items
  | .object fields => fieldZeros fields
  | _ => []

def itemZeros : List Json → List Number
  | [] => []
  | item :: items => zeros item ++ itemZeros items

def fieldZeros : List (String × Json) → List Number
  | [] => []
  | (_, value) :: fields => zeros value ++ fieldZeros fields

end

mutual

theorem tells (left right : Json) (equal : left.same right = true) :
    Tells left.zeros right.zeros left.characters right.characters := by
  cases left <;> cases right
  case null.null => exact .refl _ _
  case boolean.boolean left right =>
    obtain rfl : left = right := by simpa [same] using equal
    exact .refl _ _
  case number.number left right => exact JsonNumber.tells equal
  case string.string left right =>
    obtain rfl : left = right := by simpa [same] using equal
    exact .refl _ _
  case array.array lefts rights =>
    exact ((itemsTell lefts rights equal).before [']']).behind ['[']
  case object.object lefts rights =>
    exact ((fieldsTell lefts rights equal).before ['\x7d']).behind ['\x7b']
  all_goals simp [same] at equal

theorem itemsTell (lefts rights : List Json) (equal : sameItems lefts rights = true) :
    Tells (itemZeros lefts) (itemZeros rights) (itemCharacters lefts) (itemCharacters rights) := by
  cases lefts <;> cases rights
  case nil.nil => exact .refl _ _
  case cons.cons left lefts right rights =>
    obtain ⟨first, others⟩ := Bool.and_eq_true_iff.mp equal
    have firstTells := tells left right first
    have othersTell := itemsTell lefts rights others
    cases lefts <;> cases rights
    case nil.nil => simpa [itemZeros, itemCharacters] using firstTells
    case cons.cons => exact firstTells.append (othersTell.behind [','])
    all_goals simp [sameItems] at others
  all_goals simp [sameItems] at equal

theorem fieldsTell (lefts rights : List (String × Json))
    (equal : sameFields lefts rights = true) :
    Tells (fieldZeros lefts) (fieldZeros rights) (fieldCharacters lefts)
      (fieldCharacters rights) := by
  cases lefts <;> cases rights
  case nil.nil => exact .refl _ _
  case cons.cons left lefts right rights =>
    obtain ⟨leftKey, left⟩ := left
    obtain ⟨rightKey, right⟩ := right
    obtain ⟨field, others⟩ := Bool.and_eq_true_iff.mp equal
    obtain ⟨keys, values⟩ := Bool.and_eq_true_iff.mp field
    obtain rfl : leftKey = rightKey := beq_iff_eq.mp keys
    have valueTells := tells left right values
    have othersTell := fieldsTell lefts rights others
    cases lefts <;> cases rights
    case nil.nil =>
      simpa [fieldZeros, fieldCharacters] using (valueTells.behind [':']).behind (quoted leftKey)
    case cons.cons =>
      exact ((valueTells.append (othersTell.behind [','])).behind [':']).behind (quoted leftKey)
    all_goals simp [sameFields] at others
  all_goals simp [sameFields] at equal

end

end Json

namespace Datum

mutual

/-- The decimals that are zero in the documents among the data. -/
def zeros : Datum → List Number
  | .list items => itemZeros items
  | .json value => value.zeros
  | _ => []

def itemZeros : List Datum → List Number
  | [] => []
  | item :: items => zeros item ++ itemZeros items

end

theorem length_of_sameItems {lefts rights : List Datum} (equal : sameItems lefts rights = true) :
    lefts.length = rights.length := by
  refine length_eq_of_step ?_ ?_ ?_ equal
  · simp [sameItems]
  · simp [sameItems]
  · intro left lefts right rights step
    exact (Bool.and_eq_true_iff.mp step).2

mutual

theorem tells (left right : Datum) (equal : left.same right = true) :
    Tells left.zeros right.zeros left.fingerprint right.fingerprint := by
  cases left <;> cases right
  case null.null => exact .refl _ _
  case boolean.boolean left right =>
    obtain rfl : left = right := by simpa [same] using equal
    exact .refl _ _
  case number.number left right =>
    have bits : left.canonicalBits = right.canonicalBits := by simpa [same] using equal
    rw [fingerprint, fingerprint, bits]
    exact .refl _ _
  case string.string left right =>
    obtain rfl : left = right := by simpa [same] using equal
    exact .refl _ _
  case list.list lefts rights =>
    rw [fingerprint, fingerprint, length_of_sameItems equal]
    exact (itemsTell lefts rights equal).behind [4, rights.length]
  case json.json left right =>
    have words := (Json.tells left right equal).map fun _ _ => Char.toNat_inj.mp
    exact (words.before [0x110000]).behind [5]
  all_goals simp [same] at equal

theorem itemsTell (lefts rights : List Datum) (equal : sameItems lefts rights = true) :
    Tells (itemZeros lefts) (itemZeros rights) (itemFingerprints lefts)
      (itemFingerprints rights) := by
  cases lefts <;> cases rights
  case nil.nil => exact .refl _ _
  case cons.cons left lefts right rights =>
    obtain ⟨first, others⟩ := Bool.and_eq_true_iff.mp equal
    exact (tells left right first).append (itemsTell lefts rights others)
  all_goals simp [sameItems] at equal

end

end Datum

end Verdict
