import Mathlib.Data.List.Forall2
import Verdict.Address.Basic
import Verdict.Proofs.Number.Spelling
import Verdict.Proofs.Rule.Soundness

/-! The texts that compile to the steps of a path. A key is spelled behind a dot or between quotes, an
index in decimal, and a path is a dollar sign and a spelling of each step. Every step that can be
spelled has a written form, so a path can be written from its steps. -/

set_option autoImplicit false

namespace Verdict

/-! ## White space -/

namespace Text

variable {before word after : List Char}

theorem trim_append (blankBefore : ∀ character ∈ before, isBlank character = true)
    (blankAfter : ∀ character ∈ after, isBlank character = true) (nonempty : word ≠ [])
    (solid : ∀ character ∈ word, isBlank character = false) :
    trim (before ++ (word ++ after)) = word := by
  have first : ∀ character ∈ (word ++ after).head?, isBlank character = false := by
    intro character head
    rw [List.head?_append_of_ne_nil _ nonempty] at head
    exact solid character (List.mem_of_mem_head? head)
  have last : ∀ character ∈ word.reverse.head?, isBlank character = false := by
    intro character head
    exact solid character (List.mem_reverse.mp (List.mem_of_mem_head? head))
  have behind : ∀ character ∈ after.reverse, isBlank character = true := by
    intro character member
    exact blankAfter character (List.mem_reverse.mp member)
  rw [trim, dropWhile_append blankBefore first, List.reverse_append,
    dropWhile_append behind last, List.reverse_reverse]

theorem exists_trim (text : List Char) :
    ∃ before after, text = before ++ (trim text ++ after) ∧
      (∀ character ∈ before, isBlank character = true) ∧
      ∀ character ∈ after, isBlank character = true := by
  have front := List.takeWhile_append_dropWhile (p := isBlank) (l := text)
  have back := List.takeWhile_append_dropWhile (p := isBlank) (l := (text.dropWhile isBlank).reverse)
  have ends := congrArg List.reverse back
  rw [List.reverse_append, List.reverse_reverse] at ends
  refine ⟨text.takeWhile isBlank, ((text.dropWhile isBlank).reverse.takeWhile isBlank).reverse, ?_,
    fun _ => List.mem_takeWhile_imp, ?_⟩
  · rw [trim, ends, front]
  · intro character member
    exact List.mem_takeWhile_imp (List.mem_reverse.mp member)

theorem isBlank_eq_false_of_isDigit {character : Char} (digit : character.isDigit = true) :
    isBlank character = false := by
  simp only [Char.isDigit, Bool.and_eq_true, decide_eq_true_eq] at digit
  have least : 48 ≤ character.toNat := UInt32.le_iff_toNat_le.mp digit.1
  have greatest : character.toNat ≤ 57 := UInt32.le_iff_toNat_le.mp digit.2
  simp only [isBlank, blankRanges, List.any_cons, List.any_nil, Bool.or_false,
    Bool.or_eq_false_iff, Bool.and_eq_false_imp, decide_eq_true_eq, decide_eq_false_iff_not, not_le]
  omega

end Text

namespace PathStep

/-- The positions that a step can hold, those of a signed word of 64 bits. -/
def Holds (position : Int) : Prop :=
  -0x8000000000000000 ≤ position ∧ position < 0x8000000000000000

/-- The decimal texts of a position. -/
inductive SpellsPosition : List Char → Int → Prop where
  | unsigned {digits : List Char} : IsDigits digits → SpellsPosition digits (digitsValue digits)
  | positive {digits : List Char} : IsDigits digits →
      SpellsPosition ('+' :: digits) (digitsValue digits)
  | negative {digits : List Char} : IsDigits digits →
      SpellsPosition ('-' :: digits) (-digitsValue digits)

/-- A key that can stand behind a dot. -/
structure IsPlain (name : List Char) : Prop where
  nonempty : name ≠ []
  noWildcard : name ≠ ['*']
  continues : ∀ character ∈ name, endsKey character = false

/-- The texts of a step. -/
inductive Spelled : PathStep → List Char → Prop where
  | dotted {name : String} : IsPlain name.toList → Spelled (.key name) ('.' :: name.toList)
  | quoted {quote : Char} {name : String} : quote = '\'' ∨ quote = '"' → quote ∉ name.toList →
      Spelled (.key name) ('[' :: quote :: (name.toList ++ [quote, ']']))
  | index {before word after : List Char} {position : Int} :
      (∀ character ∈ before, Text.isBlank character = true) →
      (∀ character ∈ after, Text.isBlank character = true) →
      SpellsPosition word position → Holds position →
      Spelled (.index position) ('[' :: (before ++ (word ++ after) ++ [']']))

/-- A step that has a text. -/
def Writable : PathStep → Prop
  | .key name => IsPlain name.toList ∨ '\'' ∉ name.toList ∨ '"' ∉ name.toList
  | .index position => Holds position

instance (name : List Char) : Decidable (IsPlain name) :=
  decidable_of_iff (name ≠ [] ∧ name ≠ ['*'] ∧ name.all fun character => !endsKey character)
    ⟨fun ⟨nonempty, noWildcard, continues⟩ => ⟨nonempty, noWildcard, by simpa using continues⟩,
      fun plain => ⟨plain.nonempty, plain.noWildcard, by simpa using plain.continues⟩⟩

instance : (step : PathStep) → Decidable step.Writable
  | .key name =>
      inferInstanceAs (Decidable (IsPlain name.toList ∨ '\'' ∉ name.toList ∨ '"' ∉ name.toList))
  | .index position =>
      inferInstanceAs (Decidable
        (-0x8000000000000000 ≤ position ∧ position < 0x8000000000000000))

def writePosition (position : Int) : List Char :=
  if position < 0 then '-' :: (toString position.natAbs).toList
  else (toString position.natAbs).toList

/-- The written form of a step: a key behind a dot if possible, else between quotes. -/
def write : PathStep → List Char
  | .key name =>
      if IsPlain name.toList then '.' :: name.toList
      else
        let quote := if '\'' ∈ name.toList then '"' else '\''
        '[' :: quote :: (name.toList ++ [quote, ']'])
  | .index position => '[' :: (writePosition position ++ [']'])

end PathStep

namespace Path

/-- The path text of steps. -/
def write (steps : List PathStep) : String := String.ofList ('$' :: steps.flatMap PathStep.write)

/-- The texts of a path with the steps. -/
def Spells (text : String) (steps : List PathStep) : Prop :=
  ∃ parts, text.toList = '$' :: parts.flatten ∧ List.Forall₂ PathStep.Spelled steps parts

end Path

namespace PathStep

variable {text rest name part : List Char} {step : PathStep} {position : Int}

theorem spellsPosition_write (position : Int) :
    SpellsPosition (writePosition position) position := by
  have digits := isDigits_toString position.natAbs
  have value : digitsValue (toString position.natAbs).toList = position.natAbs := by
    rw [Nat.toString_eq_repr, Nat.toList_repr]
    exact Nat.ofDigitChars_ten_toDigits
  unfold writePosition
  split
  · have spelled := SpellsPosition.negative digits
    rw [value] at spelled
    have same : -(position.natAbs : Int) = position := by omega
    rwa [same] at spelled
  · have spelled := SpellsPosition.unsigned digits
    rw [value] at spelled
    have same : (position.natAbs : Int) = position := by omega
    rwa [same] at spelled

theorem Writable.spelled (writable : step.Writable) : Spelled step step.write := by
  cases step with
  | key name =>
      rw [write]
      split
      · rename_i plain
        exact .dotted plain
      · rename_i notPlain
        rcases writable with plain | single | double
        · exact absurd plain notPlain
        · exact .quoted (by simp [single]) (by simp [single])
        · refine .quoted ?_ ?_
          · split
            · exact .inr rfl
            · exact .inl rfl
          · split
            · exact double
            · assumption
  | index position =>
      have word := spellsPosition_write position
      have noBlank : ∀ character ∈ ([] : List Char), Text.isBlank character = true := by simp
      simpa [write] using Spelled.index noBlank noBlank word writable

theorem Spelled.writable (spelled : Spelled step part) : step.Writable := by
  cases spelled with
  | dotted plain => exact .inl plain
  | quoted quotes free =>
      rcases quotes with rfl | rfl
      · exact .inr (.inl free)
      · exact .inr (.inr free)
  | index _ _ _ holds => exact holds

/-! ## Reading a step -/

theorem readDotted_eq_ok_iff :
    readDotted text = .ok (step, rest) ↔
      ∃ name : String, IsPlain name.toList ∧ step = .key name ∧ text = name.toList ++ rest ∧
        ∀ character ∈ rest.head?, endsKey character = true := by
  unfold readDotted
  dsimp only
  constructor
  · intro read
    split at read
    · cases read
    · rename_i nonempty
      split at read
      · cases read
      · rename_i noWildcard
        cases read
        have kept : ∀ character ∈ text.takeWhile fun character => !endsKey character,
            endsKey character = false := by
          intro character member
          simpa using List.mem_takeWhile_imp member
        refine ⟨_, ?_, rfl, ?_, ?_⟩
        · rw [String.toList_ofList]
          exact ⟨by simpa using nonempty, noWildcard, kept⟩
        · rw [String.toList_ofList, List.takeWhile_append_dropWhile]
        · intro character head
          have ends := List.head?_dropWhile_not (fun character => !endsKey character) text
          rw [Option.mem_def.mp head] at ends
          simpa using ends
  · intro spelled
    obtain ⟨name, plain, rfl, rfl, ends⟩ := spelled
    have kept : ∀ character ∈ name.toList, (!endsKey character) = true := by
      simpa using plain.continues
    have stops : ∀ character ∈ rest.head?, (!endsKey character) = false := by simpa using ends
    rw [Text.takeWhile_append kept stops, Text.dropWhile_append kept stops]
    simp [plain.nonempty, plain.noWildcard]

theorem splitAt?_append {closing : Char} {before : List Char} (free : closing ∉ before)
    (after : List Char) : splitAt? closing (before ++ closing :: after) = some (before, after) := by
  induction before with
  | nil => simp [splitAt?]
  | cons first others ih =>
      have differs : first ≠ closing := (List.ne_of_not_mem_cons free).symm
      simp [splitAt?, differs, ih (List.not_mem_of_not_mem_cons free)]

theorem splitAt?_eq_some {closing : Char} {before after : List Char}
    (found : splitAt? closing text = some (before, after)) :
    text = before ++ closing :: after ∧ closing ∉ before := by
  induction text generalizing before with
  | nil => cases found
  | cons first others ih =>
      unfold splitAt? at found
      split at found
      · rename_i closes
        cases found
        exact ⟨by rw [closes, List.nil_append], List.not_mem_nil⟩
      · rename_i differs
        obtain ⟨⟨front, behind⟩, inside, same⟩ := Option.map_eq_some_iff.mp found
        cases same
        obtain ⟨rfl, free⟩ := ih inside
        exact ⟨rfl, by simp [Ne.symm differs, free]⟩

theorem SpellsPosition.characters {word : List Char} (spelled : SpellsPosition word position) :
    word ≠ [] ∧ ∀ character ∈ word, character = '+' ∨ character = '-' ∨ character.isDigit = true := by
  cases spelled with
  | unsigned digits => exact ⟨digits.nonempty, fun c member => .inr (.inr (digits.digits c member))⟩
  | positive digits =>
      exact ⟨List.cons_ne_nil _ _, List.forall_mem_cons.mpr
        ⟨.inl rfl, fun c member => .inr (.inr (digits.digits c member))⟩⟩
  | negative digits =>
      exact ⟨List.cons_ne_nil _ _, List.forall_mem_cons.mpr
        ⟨.inr (.inl rfl), fun c member => .inr (.inr (digits.digits c member))⟩⟩

theorem SpellsPosition.solid {word : List Char} (spelled : SpellsPosition word position) :
    ∀ character ∈ word, Text.isBlank character = false := by
  intro character member
  rcases spelled.characters.2 character member with rfl | rfl | digit
  · decide
  · decide
  · exact Text.isBlank_eq_false_of_isDigit digit

private theorem bounded_eq_some_iff {digits : List Char} {value : Int} :
    (if digits.isEmpty || !digits.all Char.isDigit then none
      else if -0x8000000000000000 ≤ value && value < 0x8000000000000000 then some value
      else none) = some position ↔ IsDigits digits ∧ value = position ∧ Holds position := by
  have same : (digits.isEmpty || !digits.all Char.isDigit) = false ↔ IsDigits digits := by
    simp only [Bool.or_eq_false_iff, List.isEmpty_eq_false_iff, Bool.not_eq_false',
      List.all_eq_true]
    exact ⟨fun ⟨nonempty, digits⟩ => ⟨nonempty, digits⟩,
      fun isDigits => ⟨isDigits.nonempty, isDigits.digits⟩⟩
  rw [← same]
  cases digits.isEmpty || !digits.all Char.isDigit with
  | true => simp
  | false =>
      simp only [Bool.false_eq_true, if_false, Bool.and_eq_true, decide_eq_true_eq, true_and,
        Option.ite_none_right_eq_some, Option.some.injEq]
      constructor
      · intro read
        obtain ⟨holds, rfl⟩ := read
        exact ⟨rfl, holds⟩
      · intro read
        obtain ⟨rfl, holds⟩ := read
        exact ⟨holds, rfl⟩

theorem readPosition?_eq_some_iff {word : List Char} :
    readPosition? word = some position ↔ SpellsPosition word position ∧ Holds position := by
  unfold readPosition?
  constructor
  · intro read
    split at read
    rename_i negative digits parts
    split at parts
    · cases parts
      obtain ⟨isDigits, rfl, holds⟩ := bounded_eq_some_iff.mp read
      exact ⟨.negative isDigits, holds⟩
    · cases parts
      obtain ⟨isDigits, rfl, holds⟩ := bounded_eq_some_iff.mp read
      exact ⟨.positive isDigits, holds⟩
    · cases parts
      obtain ⟨isDigits, rfl, holds⟩ := bounded_eq_some_iff.mp read
      exact ⟨.unsigned isDigits, holds⟩
  · intro spelled
    obtain ⟨spelled, holds⟩ := spelled
    cases spelled with
    | negative digits => exact bounded_eq_some_iff.mpr ⟨digits, rfl, holds⟩
    | positive digits => exact bounded_eq_some_iff.mpr ⟨digits, rfl, holds⟩
    | unsigned digits =>
        obtain ⟨first, behind, rfl, digit⟩ := digits.exists_cons
        have noMinus : first ≠ '-' := ne_of_isDigit digit (by decide)
        have noPlus : first ≠ '+' := ne_of_isDigit digit (by decide)
        split
        rename_i negative unsigned parts
        split at parts
        · rename_i same
          exact absurd (List.cons.inj same).1 noMinus
        · rename_i same
          exact absurd (List.cons.inj same).1 noPlus
        · cases parts
          exact bounded_eq_some_iff.mpr ⟨digits, rfl, holds⟩

private theorem free_of_spellsPosition {before word after : List Char} {closing : Char}
    (blankBefore : ∀ character ∈ before, Text.isBlank character = true)
    (blankAfter : ∀ character ∈ after, Text.isBlank character = true)
    (spelled : SpellsPosition word position) (solid : Text.isBlank closing = false)
    (noDigit : closing.isDigit = false) (noSign : closing ≠ '+' ∧ closing ≠ '-') :
    closing ∉ before ++ (word ++ after) := by
  have noBlank : ∀ blanks : List Char,
      (∀ character ∈ blanks, Text.isBlank character = true) → closing ∉ blanks := by
    intro blanks blank member
    rw [blank closing member] at solid
    cases solid
  have noWord : closing ∉ word := by
    intro member
    rcases spelled.characters.2 closing member with plus | minus | digit
    · exact noSign.1 plus
    · exact noSign.2 minus
    · rw [digit] at noDigit
      cases noDigit
  simp [noBlank before blankBefore, noWord, noBlank after blankAfter]

private theorem readBracketed_quoted {quote : Char} (quotes : quote = '\'' ∨ quote = '"') :
    readBracketed (quote :: text) =
      match splitAt? quote text with
      | none => .error .openQuote
      | some (name, ']' :: rest) => .ok (.key (String.ofList name), rest)
      | some _ => .error .noClosingBracket := by
  rcases quotes with rfl | rfl <;> rfl

private theorem readBracketed_unquoted (noQuote : ∀ quote ∈ text.head?, quote ≠ '\'' ∧ quote ≠ '"') :
    readBracketed text =
      match splitAt? ']' text with
      | none => .error .openBracket
      | some (selector, rest) =>
          match readPosition? (Text.trim selector) with
          | none => .error (.selector (String.ofList selector))
          | some position => .ok (.index position, rest) := by
  unfold readBracketed
  dsimp only
  split
  · exact absurd rfl (noQuote '\'' rfl).1
  · exact absurd rfl (noQuote '"' rfl).2
  · rfl

theorem spelled_of_readBracketed (read : readBracketed text = .ok (step, rest)) :
    ∃ part, Spelled step ('[' :: part) ∧ text = part ++ rest := by
  by_cases quotes : ∃ quote ∈ text.head?, quote = '\'' ∨ quote = '"'
  · obtain ⟨quote, head, quotes⟩ := quotes
    obtain ⟨behind, rfl⟩ := List.head?_eq_some_iff.mp head
    rw [readBracketed_quoted quotes] at read
    split at read
    · cases read
    · rename_i name after found
      cases read
      obtain ⟨rfl, free⟩ := splitAt?_eq_some found
      refine ⟨quote :: (name ++ [quote, ']']), ?_, by simp⟩
      rw [← String.toList_ofList (l := name)] at free
      simpa using Spelled.quoted quotes free
    · cases read
  · rw [readBracketed_unquoted (by simpa [not_or] using quotes)] at read
    split at read
    · cases read
    · rename_i selector after found
      obtain ⟨rfl, -⟩ := splitAt?_eq_some found
      split at read
      · cases read
      · rename_i position spelled
        cases read
        obtain ⟨word, holds⟩ := readPosition?_eq_some_iff.mp spelled
        obtain ⟨before, behind, split, blankBefore, blankBehind⟩ := Text.exists_trim selector
        refine ⟨selector ++ [']'], ?_, by simp⟩
        have index := Spelled.index blankBefore blankBehind word holds
        rwa [← split] at index

theorem Spelled.readBracketed (spelled : Spelled step ('[' :: part)) (rest : List Char) :
    readBracketed (part ++ rest) = .ok (step, rest) := by
  generalize whole : '[' :: part = row at spelled
  cases spelled with
  | dotted => cases whole
  | @quoted quote name quotes free =>
      cases whole
      have split := splitAt?_append free (']' :: rest)
      rw [List.cons_append, readBracketed_quoted quotes, List.append_assoc, List.cons_append]
      simp [split]
  | @index before word after position blankBefore blankAfter spelled holds =>
      cases whole
      -- no quote and no bracket is in what stands for an index
      have solid : ∀ closing : Char, Text.isBlank closing = false → closing.isDigit = false →
          closing ≠ '+' ∧ closing ≠ '-' → closing ∉ before ++ (word ++ after) := fun _ =>
        free_of_spellsPosition blankBefore blankAfter spelled
      have noQuote : ∀ quote ∈ (before ++ (word ++ after) ++ ']' :: rest).head?,
          quote ≠ '\'' ∧ quote ≠ '"' := by
        intro quote head
        have someText : before ++ (word ++ after) ≠ [] := by simp [spelled.characters.1]
        rw [List.head?_append_of_ne_nil _ someText] at head
        have member := List.mem_of_mem_head? head
        refine ⟨?_, ?_⟩
        · intro same
          exact solid '\'' (by decide) (by decide) (by decide) (same ▸ member)
        · intro same
          exact solid '"' (by decide) (by decide) (by decide) (same ▸ member)
      have found := splitAt?_append (solid ']' (by decide) (by decide) (by decide)) rest
      have trimmed := Text.trim_append blankBefore blankAfter spelled.characters.1 spelled.solid
      have position := readPosition?_eq_some_iff.mpr ⟨spelled, holds⟩
      rw [List.append_assoc, List.singleton_append, readBracketed_unquoted noQuote, found]
      simp only [trimmed, position]

/-! ## Reading steps -/

theorem Spelled.exists_cons (spelled : Spelled step part) :
    ∃ first behind, part = first :: behind ∧ endsKey first = true := by
  cases spelled with
  | dotted => exact ⟨_, _, rfl, rfl⟩
  | quoted => exact ⟨_, _, rfl, rfl⟩
  | index => exact ⟨_, _, rfl, rfl⟩

theorem endsKey_of_spelled {steps : List PathStep} {parts : List (List Char)}
    (spelled : List.Forall₂ Spelled steps parts) :
    ∀ character ∈ parts.flatten.head?, endsKey character = true := by
  cases spelled with
  | nil => simp
  | cons first _ =>
      obtain ⟨begin, behind, rfl, ends⟩ := first.exists_cons
      simpa using ends

theorem Spelled.readAll {steps : List PathStep} {fuel : Nat} (spelled : Spelled step part)
    (ends : ∀ character ∈ rest.head?, endsKey character = true)
    (further : readAll fuel rest = .ok steps) :
    readAll (fuel + 1) (part ++ rest) = .ok (step :: steps) := by
  obtain ⟨first, behind, rfl, begins⟩ := spelled.exists_cons
  rw [List.cons_append, PathStep.readAll]
  simp only [endsKey, Bool.or_eq_true, decide_eq_true_eq] at begins
  rcases begins with rfl | rfl
  · have dotted : readDotted (behind ++ rest) = .ok (step, rest) := by
      cases spelled with
      | dotted plain => exact readDotted_eq_ok_iff.mpr ⟨_, plain, rfl, rfl, ends⟩
    simp [dotted, further, bind, Except.bind, pure, Except.pure]
  · have bracketed := spelled.readBracketed rest
    simp [bracketed, further, bind, Except.bind, pure, Except.pure]

theorem readAll_of_spelled {steps : List PathStep} {parts : List (List Char)} {fuel : Nat}
    (spelled : List.Forall₂ Spelled steps parts) (enough : parts.flatten.length ≤ fuel) :
    readAll fuel parts.flatten = .ok steps := by
  induction spelled generalizing fuel with
  | nil => simp [readAll]
  | @cons step part steps parts first others ih =>
      obtain ⟨begin, behind, split, -⟩ := first.exists_cons
      have positive : 0 < part.length := by simp [split]
      rw [List.flatten_cons] at enough ⊢
      rw [List.length_append] at enough
      obtain ⟨less, rfl⟩ : ∃ less, fuel = less + 1 := ⟨fuel - 1, by omega⟩
      exact first.readAll (endsKey_of_spelled others) (ih (by omega))

theorem spelled_of_readAll {steps : List PathStep} (fuel : Nat)
    (read : readAll fuel text = .ok steps) :
    ∃ parts, text = parts.flatten ∧ List.Forall₂ Spelled steps parts := by
  induction fuel generalizing text steps with
  | zero =>
      cases text with
      | nil =>
          cases read
          exact ⟨[], rfl, .nil⟩
      | cons first others => cases read
  | succ fuel ih =>
      cases text with
      | nil =>
          cases read
          exact ⟨[], rfl, .nil⟩
      | cons first others =>
          simp only [readAll] at read
          split at read
          · rename_i dot
            subst dot
            obtain ⟨⟨step, behind⟩, stepRead, read⟩ := bind_eq_ok read
            obtain ⟨steps, further, finished⟩ := bind_eq_ok read
            cases finished
            obtain ⟨name, plain, rfl, rfl, -⟩ := readDotted_eq_ok_iff.mp stepRead
            obtain ⟨parts, rfl, spelled⟩ := ih further
            exact ⟨_ :: parts, rfl, .cons (.dotted plain) spelled⟩
          · split at read
            · rename_i bracket
              subst bracket
              obtain ⟨⟨step, behind⟩, stepRead, read⟩ := bind_eq_ok read
              obtain ⟨steps, further, finished⟩ := bind_eq_ok read
              cases finished
              obtain ⟨part, first, rfl⟩ := spelled_of_readBracketed stepRead
              obtain ⟨parts, rfl, spelled⟩ := ih further
              exact ⟨_ :: parts, rfl, .cons first spelled⟩
            · cases read

end PathStep

theorem pathSteps_eq_ok_iff {text : String} {steps : List PathStep} :
    pathSteps text = .ok steps ↔ Path.Spells text steps := by
  unfold pathSteps Path.Spells
  constructor
  · intro read
    split at read
    · rename_i rest split
      obtain ⟨parts, rfl, spelled⟩ := PathStep.spelled_of_readAll _ read
      exact ⟨parts, split, spelled⟩
    · cases read
  · intro spells
    obtain ⟨parts, split, spelled⟩ := spells
    rw [split]
    exact PathStep.readAll_of_spelled spelled (Nat.le_refl _)

theorem Path.compile_eq_ok {text : String} {path : Path} (compiled : Path.compile text = .ok path) :
    Path.Spells text path.steps := by
  unfold Path.compile at compiled
  split at compiled
  · rename_i steps spelled
    cases compiled
    exact pathSteps_eq_ok_iff.mp spelled
  · cases compiled

theorem Path.Spells.compile {text : String} {steps : List PathStep} (spells : Path.Spells text steps) :
    ∃ path, Path.compile text = .ok path ∧ path.steps = steps := by
  have read := pathSteps_eq_ok_iff.mpr spells
  unfold Path.compile
  split
  · rename_i found spelled
    rw [read] at spelled
    exact ⟨_, rfl, (Except.ok.inj spelled).symm⟩
  · rename_i defect refused
    rw [read] at refused
    cases refused

theorem Path.Spells.writable {text : String} {steps : List PathStep}
    (spells : Path.Spells text steps) : ∀ step ∈ steps, step.Writable := by
  obtain ⟨parts, -, spelled⟩ := spells
  clear * - spelled
  induction spelled with
  | nil => simp
  | cons first _ ih => exact List.forall_mem_cons.mpr ⟨first.writable, ih⟩

theorem Path.spells_write {steps : List PathStep} (writable : ∀ step ∈ steps, step.Writable) :
    Path.Spells (Path.write steps) steps := by
  refine ⟨steps.map PathStep.write, ?_, ?_⟩
  · rw [Path.write, String.toList_ofList, List.flatMap]
  · induction steps with
    | nil => exact .nil
    | cons step steps ih =>
        obtain ⟨first, others⟩ := List.forall_mem_cons.mp writable
        exact .cons first.spelled (ih others)

/-- A text compiles to the steps that it spells, and to an error when it spells none. The steps that a
text spells are those that can be written. -/
theorem path_spellings :
    (∀ steps : List PathStep, (∀ step ∈ steps, step.Writable) →
      Path.Spells (Path.write steps) steps) ∧
    (∀ text steps, Path.Spells text steps →
      ∃ path, Path.compile text = .ok path ∧ path.steps = steps) ∧
    (∀ text path, Path.compile text = .ok path → (∀ step ∈ path.steps, step.Writable) ∧
      ∃ again, Path.compile (Path.write path.steps) = .ok again ∧ again.steps = path.steps) ∧
    ∀ text, (∀ steps, ¬ Path.Spells text steps) →
      ∃ defect, Dialect.path.compile text = .error (.path defect) ∧
        (text.toList.head? = some '$' →
          literalOfString text = .error (.invalidAddress text (.path defect))) := by
  refine ⟨fun _ => Path.spells_write, fun _ _ => Path.Spells.compile, ?_, ?_⟩
  · intro text path compiled
    have writable := (Path.compile_eq_ok compiled).writable
    exact ⟨writable, (Path.spells_write writable).compile⟩
  · intro text noSteps
    cases compiled : Path.compile text with
    | ok path => exact absurd (Path.compile_eq_ok compiled) (noSteps path.steps)
    | error defect =>
        refine ⟨defect, by simp [Dialect.compile, compiled], ?_⟩
        intro head
        simp [literalOfString, head, Dialect.compile, compiled]

theorem path_spellings_of_quotes :
    (∃ path, Path.compile "$['a.b'][\"[it's]\"].c[-9223372036854775808]" = .ok path ∧
      path.steps = [.key "a.b", .key "[it's]", .key "c", .index (-9223372036854775808)]) ∧
    ∃ defect, literalOfString "$['it's']" = .error (.invalidAddress "$['it's']" (.path defect)) := by
  obtain ⟨writes, compiles, -, refuses⟩ := path_spellings
  have written := writes [.key "a.b", .key "[it's]", .key "c", .index (-9223372036854775808)]
    (by decide +kernel)
  have text : Path.write [.key "a.b", .key "[it's]", .key "c", .index (-9223372036854775808)] =
      "$['a.b'][\"[it's]\"].c[-9223372036854775808]" := by decide +kernel
  have read : pathSteps "$['it's']" = .error .noClosingBracket := by decide +kernel
  have noSteps : ∀ steps, ¬ Path.Spells "$['it's']" steps := by
    intro steps spells
    have found := pathSteps_eq_ok_iff.mpr spells
    rw [read] at found
    cases found
  obtain ⟨defect, -, literal⟩ := refuses _ noSteps
  exact ⟨compiles _ _ (text ▸ written), defect, literal rfl⟩

end Verdict
