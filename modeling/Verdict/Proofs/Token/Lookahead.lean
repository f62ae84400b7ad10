import Verdict.Proofs.Token.Scanning

/-! What the scanner sees of the text behind a token. It looks for the characters that the token could
go on with, and no separator is among them. So the text behind a token may end sooner, or be parted
from the token by a separator, and the same token is scanned. -/

set_option autoImplicit false

namespace Verdict

/-- As far as its characters are seen, the text goes on as the other one does, unless it ends sooner. -/
def GoesOnAs (seen : Char → Bool) (text other : List Char) : Prop :=
  ∀ lead, (∀ character ∈ lead, seen character = true) → lead <+: text → lead <+: other

namespace GoesOnAs

variable {seen : Char → Bool} {text other last : List Char}

theorem of_isPrefix (cut : text <+: other) : GoesOnAs seen text other :=
  fun _ _ begins => begins.trans cut

theorem refl (text : List Char) : GoesOnAs seen text text := .of_isPrefix List.prefix_rfl

theorem trans (first : GoesOnAs seen text other) (second : GoesOnAs seen other last) :
    GoesOnAs seen text last :=
  fun lead visible begins => second lead visible (first lead visible begins)

theorem of_unseen (unseen : ∀ character ∈ text.head?, seen character = false) :
    GoesOnAs seen text other := by
  intro lead visible begins
  cases lead with
  | nil => exact List.nil_prefix
  | cons first behind =>
      obtain ⟨rest, rfl⟩ := begins
      have sees := visible first List.mem_cons_self
      rw [unseen first rfl] at sees
      cases sees

theorem mono {fewer : Char → Bool} (goesOn : GoesOnAs seen text other)
    (within : ∀ character, fewer character = true → seen character = true) :
    GoesOnAs fewer text other :=
  fun lead visible => goesOn lead fun character member => within character (visible character member)

theorem prepend (goesOn : GoesOnAs seen text other) (word : List Char) :
    GoesOnAs seen (word ++ text) (word ++ other) := by
  intro lead visible begins
  rcases List.prefix_or_prefix_of_prefix begins (List.prefix_append word text) with within | beyond
  · exact within.trans (List.prefix_append word other)
  · obtain ⟨more, rfl⟩ := beyond
    apply (List.prefix_append_right_inj word).mpr
    apply goesOn more
    · exact fun character member => visible character (List.mem_append_right _ member)
    · exact (List.prefix_append_right_inj word).mp begins

/-- Characters of which all are seen end in front of both texts. -/
theorem ends (goesOn : GoesOnAs seen text other) {kept : Char → Bool}
    (within : ∀ character, kept character = true → seen character = true)
    (stops : ∀ character ∈ other.head?, kept character = false) :
    ∀ character ∈ text.head?, kept character = false := by
  intro character first
  cases keeps : kept character with
  | false => rfl
  | true =>
      obtain ⟨behind, split⟩ := List.head?_eq_some_iff.mp first
      have begins : [character] <+: other := by
        apply goesOn [character] (by simpa using within character keeps)
        simp [split]
      obtain ⟨rest, rfl⟩ := begins
      have stopped := stops character rfl
      rw [keeps] at stopped
      cases stopped

end GoesOnAs

/-! ## Numerals -/

/-- The characters that the scanner of numerals looks for. -/
def Numeral.isSeen (character : Char) : Bool :=
  character.isDigit || ['.', 'e', 'E', '+', '-'].contains character

theorem Numeral.isSeen_of_isDigit (character : Char) (digit : character.isDigit = true) :
    isSeen character = true := by
  simp [isSeen, digit]

private theorem not_digit_of_dropWhile (text : List Char) :
    ∀ character ∈ (text.dropWhile Char.isDigit).head?, character.isDigit = false := by
  intro character member
  have stops := List.head?_dropWhile_not Char.isDigit text
  rw [Option.mem_def.mp member] at stops
  exact stops

private theorem isDigits_takeWhile {text : List Char}
    (nonempty : text.takeWhile Char.isDigit ≠ []) : IsDigits (text.takeWhile Char.isDigit) :=
  ⟨nonempty, fun _ member => List.mem_takeWhile_imp member⟩

/-- A part of a numeral that may be left out: how it is scanned and spelled, and when it is one that
the scanner takes. More digits at its end make it another one. -/
private structure Optional {α : Type} (scan : List Char → Option α × List Char)
    (spell : α → List Char) (Sound : α → Prop) : Prop where
  sound : ∀ {text rest part}, scan text = (some part, rest) →
    Sound part ∧ text = spell part ++ rest ∧ ∀ character ∈ rest.head?, character.isDigit = false
  scans : ∀ {part rest}, Sound part → (∀ character ∈ rest.head?, character.isDigit = false) →
    scan (spell part ++ rest) = (some part, rest)
  none : ∀ {text rest}, scan text = (none, rest) → rest = text
  seen : ∀ {part}, Sound part → ∀ character ∈ spell part, Numeral.isSeen character = true
  grows : ∀ {part digits}, Sound part → (∀ digit ∈ digits, Char.isDigit digit = true) →
    ∃ longer, Sound longer ∧ spell longer = spell part ++ digits

/-- The text of a part that may be left out. -/
private def spelled {α : Type} (spell : α → List Char) (found : Option α) : List Char :=
  (found.map spell).getD []

namespace Optional

variable {α : Type} {scan : List Char → Option α × List Char} {spell : α → List Char}
  {Sound : α → Prop} {text rest other : List Char}

/-- What is left out in front of a text is left out in front of one that goes on as it does. -/
theorem scan_eq_none (optional : Optional scan spell Sound) (absent : scan rest = (.none, rest))
    (goesOn : GoesOnAs Numeral.isSeen other rest) : scan other = (.none, other) := by
  cases scanned : scan other with
  | mk found left =>
      cases found with
      | none => rw [optional.none scanned]
      | some part =>
          obtain ⟨sound, rfl, -⟩ := optional.sound scanned
          obtain ⟨more, rfl⟩ := goesOn (spell part) (optional.seen sound) ⟨left, rfl⟩
          -- digits behind the part belong to it, so the rest would begin with a longer part
          obtain ⟨longer, longerSound, spelled⟩ := @Optional.grows _ _ _ _ optional part
            (more.takeWhile Char.isDigit) sound fun _ member => List.mem_takeWhile_imp member
          have scans := optional.scans longerSound (not_digit_of_dropWhile more)
          rw [spelled, List.append_assoc, List.takeWhile_append_dropWhile, absent] at scans
          cases scans

theorem scan_goesOn (optional : Optional scan spell Sound) {found : Option α}
    (scanned : scan text = (found, rest)) :
    text = spelled spell found ++ rest ∧
      ∀ other, GoesOnAs Numeral.isSeen other rest → scan (spelled spell found ++ other) = (found, other) := by
  cases found with
  | none =>
      obtain rfl := optional.none scanned
      exact ⟨rfl, fun other goesOn => optional.scan_eq_none scanned goesOn⟩
  | some part =>
      obtain ⟨sound, split, ends⟩ := optional.sound scanned
      refine ⟨split, ?_⟩
      intro other goesOn
      exact optional.scans sound
        (goesOn.ends Numeral.isSeen_of_isDigit ends)

end Optional

namespace ExponentPart

/-- An exponent as the scanner takes it. -/
private structure Sound (part : ExponentPart) : Prop where
  mark : part.mark = 'e' ∨ part.mark = 'E'
  sign : part.sign = none ∨ part.sign = some '+' ∨ part.sign = some '-'
  digits : IsDigits part.digits

/-- The sign in front of the digits of an exponent. -/
private def splitSign (text : List Char) : Option Char × List Char :=
  match text with
  | '+' :: tail => (some '+', tail)
  | '-' :: tail => (some '-', tail)
  | _ => (none, text)

private theorem splitSign_spec (text : List Char) :
    text = (splitSign text).1.toList ++ (splitSign text).2 ∧
      ((splitSign text).1 = none ∨ (splitSign text).1 = some '+' ∨
        (splitSign text).1 = some '-') := by
  unfold splitSign
  split
  · exact ⟨rfl, .inr (.inl rfl)⟩
  · exact ⟨rfl, .inr (.inr rfl)⟩
  · exact ⟨rfl, .inl rfl⟩

private theorem scan_marked {mark : Char} (marked : mark = 'e' ∨ mark = 'E') (text : List Char) :
    scan (mark :: text) =
      if (splitSign text).2.takeWhile Char.isDigit = [] then (none, mark :: text)
      else (some ⟨mark, (splitSign text).1, (splitSign text).2.takeWhile Char.isDigit⟩,
        (splitSign text).2.dropWhile Char.isDigit) := by
  simp only [scan, splitSign, Bool.or_eq_true, decide_eq_true_eq, marked, if_true,
    List.isEmpty_iff]
  rfl

private theorem splitSign_of_sound {part : ExponentPart} (sound : part.Sound) (rest : List Char) :
    splitSign (part.sign.toList ++ (part.digits ++ rest)) = (part.sign, part.digits ++ rest) := by
  obtain ⟨mark, sign, digits⟩ := part
  obtain ⟨-, signs, isDigits⟩ := sound
  obtain ⟨first, behind, rfl, digit⟩ := isDigits.exists_cons
  have noPlus := ne_of_isDigit digit (by decide : '+'.isDigit = false)
  have noMinus := ne_of_isDigit digit (by decide : '-'.isDigit = false)
  simp only at signs
  rcases signs with rfl | rfl | rfl
  · simp [splitSign, noPlus, noMinus]
  · rfl
  · rfl

private theorem optional : Optional scan text Sound where
  sound := by
    intro text rest part scanned
    cases text with
    | nil => simp [scan] at scanned
    | cons mark behind =>
        by_cases marked : mark = 'e' ∨ mark = 'E'
        · obtain ⟨split, signs⟩ := splitSign_spec behind
          rw [scan_marked marked] at scanned
          split at scanned
          · cases scanned
          · rename_i nonempty
            cases scanned
            refine ⟨⟨marked, signs, isDigits_takeWhile nonempty⟩, ?_, not_digit_of_dropWhile _⟩
            simp only [ExponentPart.text, List.cons_append, List.append_assoc,
              List.takeWhile_append_dropWhile, ← split]
        · simp [scan, marked] at scanned
  scans := by
    intro part rest sound ends
    have split := splitSign_of_sound sound rest
    rw [ExponentPart.text, List.cons_append, List.append_assoc, scan_marked sound.mark, split]
    simp only [sound.digits.takeWhile_append ends, sound.digits.dropWhile_append ends,
      sound.digits.nonempty, if_false]
  none := by
    intro text rest scanned
    cases text with
    | nil => exact (Prod.mk.inj scanned).2.symm
    | cons mark behind =>
        by_cases marked : mark = 'e' ∨ mark = 'E'
        · rw [scan_marked marked] at scanned
          split at scanned
          · exact (Prod.mk.inj scanned).2.symm
          · cases scanned
        · simp only [scan, Bool.or_eq_true, decide_eq_true_eq, marked, if_false] at scanned
          exact (Prod.mk.inj scanned).2.symm
  seen := by
    intro part sound character member
    obtain ⟨mark, sign, digits⟩ := part
    simp only [ExponentPart.text, List.mem_cons, List.mem_append, Option.mem_toList] at member
    obtain ⟨marks, signs, isDigits⟩ := sound
    rcases member with rfl | signed | digit
    · rcases marks with rfl | rfl <;> decide
    · simp only at signs
      rcases signs with rfl | rfl | rfl
      · cases signed
      · cases signed
        decide
      · cases signed
        decide
    · exact Numeral.isSeen_of_isDigit character (isDigits.digits character digit)
  grows := by
    intro part digits sound more
    refine ⟨{ part with digits := part.digits ++ digits },
      ⟨sound.mark, sound.sign, sound.digits.append more⟩, ?_⟩
    simp [ExponentPart.text]

end ExponentPart

namespace Numeral

variable {text rest : List Char} {numeral : Numeral}

private theorem optionalFraction : Optional scanFraction (fun digits => '.' :: digits) IsDigits where
  sound := by
    intro text rest part scanned
    unfold scanFraction at scanned
    split at scanned
    · rename_i behind
      simp only [List.isEmpty_iff] at scanned
      split at scanned
      · cases scanned
      · rename_i nonempty
        cases scanned
        refine ⟨isDigits_takeWhile nonempty, ?_, not_digit_of_dropWhile behind⟩
        rw [List.cons_append, List.takeWhile_append_dropWhile]
    · cases scanned
  scans := by
    intro part rest isDigits ends
    simp [scanFraction, isDigits.takeWhile_append ends, isDigits.dropWhile_append ends,
      isDigits.nonempty]
  none := by
    intro text rest scanned
    unfold scanFraction at scanned
    split at scanned
    · simp only at scanned
      split at scanned
      · exact (Prod.mk.inj scanned).2.symm
      · cases scanned
    · exact (Prod.mk.inj scanned).2.symm
  seen := by
    intro part isDigits character member
    rcases List.mem_cons.mp member with rfl | digit
    · decide
    · exact Numeral.isSeen_of_isDigit character (isDigits.digits character digit)
  grows := by
    intro part digits isDigits more
    exact ⟨part ++ digits, isDigits.append more, rfl⟩

/-- The text of a numeral without its sign. -/
private def unsignedText (numeral : Numeral) : List Char :=
  numeral.whole ++ (spelled (fun digits => '.' :: digits) numeral.fraction ++
    spelled ExponentPart.text numeral.exponent)

private theorem text_eq (numeral : Numeral) :
    numeral.text = (if numeral.negative then ['-'] else []) ++ numeral.unsignedText := by
  obtain ⟨negative, whole, fraction, exponent⟩ := numeral
  cases fraction <;> cases exponent <;> simp [Numeral.text, unsignedText, spelled]

private theorem scanUnsigned_goesOn {negative : Bool}
    (scanned : scanUnsigned negative text = some (numeral, rest)) :
    numeral.negative = negative ∧ IsDigits numeral.whole ∧ text = numeral.unsignedText ++ rest ∧
      ∀ other, GoesOnAs Numeral.isSeen other rest →
        scanUnsigned negative (numeral.unsignedText ++ other) = some (numeral, other) := by
  unfold scanUnsigned at scanned
  simp only [List.isEmpty_iff] at scanned
  split at scanned
  · cases scanned
  · rename_i nonempty
    have whole := isDigits_takeWhile nonempty
    cases fractionScanned : scanFraction (text.dropWhile Char.isDigit) with
    | mk fraction behindFraction =>
        cases exponentScanned : ExponentPart.scan behindFraction with
        | mk exponent behind =>
            simp only [fractionScanned, exponentScanned] at scanned
            cases scanned
            obtain ⟨fractionSplit, fractionGoesOn⟩ := optionalFraction.scan_goesOn fractionScanned
            obtain ⟨exponentSplit, exponentGoesOn⟩ :=
              ExponentPart.optional.scan_goesOn exponentScanned
            refine ⟨rfl, whole, ?_, ?_⟩
            · rw [unsignedText]
              simp only [List.append_assoc, ← exponentSplit, ← fractionSplit,
                List.takeWhile_append_dropWhile]
            · intro other goesOn
              -- a part sees the parts behind it too, so the last one comes first
              have exponentAgain := exponentGoesOn other goesOn
              have behindFraction := goesOn.prepend (spelled ExponentPart.text exponent)
              rw [← exponentSplit] at behindFraction
              have fractionAgain := fractionGoesOn _ behindFraction
              have behindWhole := behindFraction.prepend (spelled (fun digits => '.' :: digits) fraction)
              rw [← fractionSplit] at behindWhole
              have ends := behindWhole.ends isSeen_of_isDigit
                (not_digit_of_dropWhile text)
              simp only [scanUnsigned, unsignedText, List.append_assoc, List.isEmpty_iff,
                whole.takeWhile_append ends, whole.dropWhile_append ends, fractionAgain,
                exponentAgain, whole.nonempty, if_false]

/-- A numeral is its own text, taken off the front, and what stands behind it may be changed. -/
theorem scan_goesOn (scanned : scan text = some (numeral, rest)) :
    numeral.text ≠ [] ∧ text = numeral.text ++ rest ∧
      ∀ other, GoesOnAs Numeral.isSeen other rest → scan (numeral.text ++ other) = some (numeral, other) := by
  rw [text_eq]
  unfold scan at scanned
  split at scanned
  · obtain ⟨sign, whole, split, goesOn⟩ := scanUnsigned_goesOn scanned
    rw [sign, if_pos rfl]
    exact ⟨by simp, congrArg ('-' :: ·) split, goesOn⟩
  · obtain ⟨sign, whole, split, goesOn⟩ := scanUnsigned_goesOn scanned
    obtain ⟨first, behind, begins, digit⟩ := whole.exists_cons
    have noMinus := ne_of_isDigit digit (by decide : '-'.isDigit = false)
    rw [sign, if_neg Bool.false_ne_true, List.nil_append]
    refine ⟨by simp [unsignedText, begins], split, ?_⟩
    intro other further
    have again := goesOn other further
    simp only [unsignedText, begins, List.cons_append] at again ⊢
    rw [scan]
    · exact again
    · intro tail same
      exact noMinus (List.cons.inj same).1

end Numeral

/-! ## Tokens -/

theorem byteSize_append (left right : List Char) :
    byteSize (left ++ right) = byteSize left + byteSize right := by
  induction left with
  | nil => simp [byteSize]
  | cons first behind ih => simp only [List.cons_append, byteSize, ih, Nat.add_assoc]

theorem byteSize_pos {text : List Char} (nonempty : text ≠ []) : 0 < byteSize text := by
  cases text with
  | nil => exact absurd rfl nonempty
  | cons first behind => exact Nat.add_pos_left first.utf8Size_pos _

namespace Token

variable {text rest : List Char}

/-- A character that is no separator. -/
def isSolid (character : Char) : Bool := !isSeparator character

theorem isSolid_of_kept {kept : Char → Bool} (spares : [' ', '\t', '\r', '\n'].any kept = false)
    (character : Char) (keeps : kept character = true) : isSolid character = true := by
  cases separates : isSeparator character with
  | false => simp [isSolid, separates]
  | true =>
      have listed : character ∈ [' ', '\t', '\r', '\n'] := by
        simpa [isSeparator, or_assoc] using separates
      exact absurd keeps (List.any_eq_false.mp spares character listed)

theorem goesOn_of_separated {other : List Char}
    (separated : ∀ character ∈ text.head?, isSeparator character = true) :
    GoesOnAs isSolid text other :=
  .of_unseen fun character first => by simp [isSolid, separated character first]

theorem split_of_scanMark? {sign : Mark} (scanned : scanMark? text = some (sign, rest)) :
    text = sign.text.toList ++ rest ∧ sign.Ends rest := by
  unfold scanMark? at scanned
  split at scanned
  all_goals cases scanned
  all_goals refine ⟨rfl, ?_⟩
  -- only the marks of one character that begin a longer one have an alternative to exclude
  case h_7.refl single => exact fun character longer => Option.some.inj longer ▸ single
  case h_8.refl single => exact fun character longer => Option.some.inj longer ▸ single
  case h_9.refl single => exact fun character longer => Option.some.inj longer ▸ single
  case h_10.refl single => exact fun character longer => Option.some.inj longer ▸ single
  all_goals exact nofun

namespace StringScan

theorem prepend_eq_closed_iff {character : Char} {bytes size : Nat} {scan : StringScan}
    {content rest : List Char} :
    scan.prepend character bytes = .closed content size rest ↔
      ∃ behind left, scan = .closed behind left rest ∧ character :: behind = content ∧
        bytes + left = size := by
  cases scan <;> simp [prepend, and_assoc, and_comm, and_left_comm]

/-- A string ends at its closing quote, so nothing behind that is seen. -/
theorem split_of_read {quote : Char} {content : List Char} {size : Nat}
    (closed : read quote text = .closed content size rest) :
    ∃ word, text = word ++ rest ∧ size = byteSize word ∧
      ∀ other, read quote (word ++ other) = .closed content size other := by
  fun_induction StringScan.read quote text generalizing content size with
  | case1 => cases closed
  | case2 rest =>
      cases closed
      exact ⟨[quote], rfl, rfl, fun other => by simp [StringScan.read.eq_def]⟩
  | case3 => cases closed
  | case4 => cases closed
  | case5 letter behind meant known notQuote ih =>
      obtain ⟨inner, left, read, rfl, rfl⟩ := prepend_eq_closed_iff.mp closed
      obtain ⟨word, rfl, rfl, again⟩ := ih read
      refine ⟨'\\' :: letter :: word, rfl, by simp only [byteSize, Nat.add_assoc], ?_⟩
      intro other
      rw [List.cons_append, List.cons_append, StringScan.read.eq_def]
      simp [notQuote, known, again, prepend]
  | case6 character behind notQuote notBackslash ih =>
      obtain ⟨inner, left, read, rfl, rfl⟩ := prepend_eq_closed_iff.mp closed
      obtain ⟨word, rfl, rfl, again⟩ := ih read
      refine ⟨character :: word, rfl, rfl, ?_⟩
      intro other
      rw [List.cons_append, StringScan.read.eq_def]
      simp [notQuote, notBackslash, again, prepend]

end StringScan

theorem StopsIdentifier.goesOn {other : List Char} (stops : StopsIdentifier rest)
    (goesOn : GoesOnAs isSolid other rest) : StopsIdentifier other := by
  refine ⟨goesOn.ends (isSolid_of_kept (by decide)) stops.part, ?_⟩
  intro behind dot
  subst dot
  cases behind with
  | nil => rfl
  | cons first further =>
      cases begins : beginsIdentifier first with
      | false => simp [scanPart?, begins]
      | true =>
          -- a dot alone goes no further, so both characters are looked for
          have visible : ∀ character ∈ ['.', first], isSolid character = true :=
            List.forall_mem_cons.mpr ⟨by decide,
              List.forall_mem_singleton.mpr (isSolid_of_kept (by decide) first begins)⟩
          obtain ⟨left, rfl⟩ := goesOn ['.', first] visible ⟨further, rfl⟩
          have stopped := stops.dot (first :: left) rfl
          simp [scanPart?, begins] at stopped

theorem ends_mark_goesOn {other : List Char} {sign : Mark} (ends : sign.Ends rest)
    (goesOn : GoesOnAs isSolid other rest) : sign.Ends other := by
  intro character longer behind same
  have visible : isSolid character = true := by
    cases sign <;> cases longer <;> decide
  subst same
  obtain ⟨left, rfl⟩ := goesOn [character] (by simpa using visible) ⟨behind, rfl⟩
  exact ends character longer left rfl

private theorem scan_closed {quote : Char} {content : List Char} {size : Nat}
    (quotes : quote = '\'' ∨ quote = '"')
    (closed : StringScan.read quote text = .closed content size rest) :
    scan (quote :: text) = .ok (.string (String.ofList content), quote.utf8Size + size, rest) := by
  have notNumeral : Numeral.scan (quote :: text) = none := by
    rcases quotes with rfl | rfl
    · exact scanNumeral_eq_none (by decide) (by decide)
    · exact scanNumeral_eq_none (by decide) (by decide)
  simp [scan, notNumeral, quotes, closed]

/-- A token is scanned from its word. Behind the word the text may end sooner than it did or go on
with a separator. -/
theorem scan_goesOn {token : Token} {size : Nat} (scans : scan text = .ok (token, size, rest)) :
    ∃ word, word ≠ [] ∧ text = word ++ rest ∧ size = byteSize word ∧
      ∀ other, GoesOnAs isSolid other rest → scan (word ++ other) = .ok (token, size, other) := by
  unfold scan at scans
  split at scans
  · rename_i numeral behind scanned
    simp only at scans
    split at scans
    · rename_i finite
      cases scans
      obtain ⟨nonempty, split, again⟩ := Numeral.scan_goesOn scanned
      refine ⟨numeral.text, nonempty, split, rfl, ?_⟩
      intro other goesOn
      simp [scan, again other (goesOn.mono (isSolid_of_kept (by decide))), finite]
    · cases scans
  · split at scans
    · cases scans
    · rename_i first behind _
      split at scans
      · rename_i quotes
        split at scans
        · rename_i content size rest closed
          cases scans
          obtain ⟨word, rfl, rfl, again⟩ := StringScan.split_of_read closed
          refine ⟨first :: word, List.cons_ne_nil _ _, rfl, rfl, ?_⟩
          intro other _
          exact scan_closed (by simpa using quotes) (again other)
        · cases scans
        · cases scans
      · split at scans
        · rename_i name rest found
          cases scans
          obtain ⟨split, stops⟩ := split_of_scanIdentifier? found
          have isDotted := isDotted_of_scanIdentifier? found
          obtain ⟨_, _, nonempty, -⟩ := isDotted.exists_cons
          refine ⟨name, by simp [nonempty], split, rfl, ?_⟩
          intro other goesOn
          exact scan_name isDotted (stops.goesOn goesOn)
        · split at scans
          · rename_i sign rest found
            cases scans
            obtain ⟨split, ends⟩ := split_of_scanMark? found
            rw [utf8ByteSize_eq]
            obtain ⟨_, _, nonempty, -⟩ := exists_first_of_mark sign
            refine ⟨sign.text.toList, by simp [nonempty], split, rfl, ?_⟩
            intro other goesOn
            exact scan_mark (ends_mark_goesOn ends goesOn)
          · cases scans

end Token

end Verdict
