import Mathlib.Algebra.BigOperators.Fin
import Mathlib.Tactic.Ring
import Verdict.Proofs.Number.Exactness
import Verdict.Proofs.Rule.Binding
import Verdict.Proofs.Session.Conclusions
import Verdict.Registry.Discovery

/-! The rolling hash as a polynomial. Folding words into a hash of 32 bits takes them for the digits
of an integer in base 31 and keeps the lowest bits of it. So the hash of a text is told by its 16-bit
units, that of a list by the hashes of its items, and that of two texts put together by their hashes
and the length of the second one. -/

set_option autoImplicit false

namespace Verdict

namespace Text

/-- The 16-bit units of a text. A character of the basic plane is a unit of its own, any other is a
high and a low surrogate, which have ten bits of it each. -/
inductive Encodes : List Char → List Nat → Prop where
  | nil : Encodes [] []
  | single {character : Char} {text : List Char} {units : List Nat} :
      character.toNat < 0x10000 → Encodes text units →
      Encodes (character :: text) (character.toNat :: units)
  | pair {character : Char} {high low : Nat} {text : List Char} {units : List Nat} :
      0xD800 ≤ high → high < 0xDC00 → 0xDC00 ≤ low → low < 0xE000 →
      character.toNat = 0x10000 + (high - 0xD800) * 0x400 + (low - 0xDC00) → Encodes text units →
      Encodes (character :: text) (high :: low :: units)

theorem toNat_lt (character : Char) : character.toNat < 0x110000 := by
  rcases character.valid with low | ⟨-, high⟩
  · exact low.trans (by decide)
  · exact high

theorem encodes_iff {text : List Char} {units : List Nat} :
    Encodes text units ↔ units = text.flatMap units16 := by
  constructor
  · intro encodes
    induction encodes with
    | nil => rfl
    | single basic encodes ih =>
        rw [List.flatMap_cons, units16, if_pos basic, ih]
        rfl
    | @pair character high low text units _ _ _ _ value encodes ih =>
        -- the low surrogate has the ten lowest bits, so the value gives both back
        have highEq : high = 0xD800 + (character.toNat - 0x10000) / 0x400 := by omega
        have lowEq : low = 0xDC00 + (character.toNat - 0x10000) % 0x400 := by omega
        rw [List.flatMap_cons, units16, if_neg (by omega), ← highEq, ← lowEq, ih]
        rfl
  · rintro rfl
    induction text with
    | nil => exact .nil
    | cons character text ih =>
        have bound := toNat_lt character
        rw [List.flatMap_cons, units16]
        split
        · exact .single ‹_› ih
        · exact .pair (by omega) (by omega) (by omega) (by omega) (by omega) ih

end Text

namespace Hash

/-- The integer with the digits in base 31, the most significant one first. -/
def polynomial (digits : List Int) : Int :=
  ∑ index : Fin digits.length, digits[index] * 31 ^ (digits.length - 1 - index)

/-- The rolling hash of a datum as a signed integer. -/
def code (datum : Datum) : Int := signed32 (rollDatum datum)

theorem polynomial_cons (digit : Int) (digits : List Int) :
    polynomial (digit :: digits) = digit * 31 ^ digits.length + polynomial digits := by
  refine (Fin.sum_univ_succ _).trans (congrArg (_ + ·) (Finset.sum_congr rfl fun index _ => ?_))
  simp [Nat.sub_sub, Nat.add_comm]

theorem roll_ofInt (start : Int) (words : List Int) :
    roll (.ofInt start) (words.map .ofInt) =
      .ofInt (start * 31 ^ words.length + polynomial words) := by
  -- each word becomes a part of the hash that the others start from
  induction words generalizing start with
  | nil => simp [roll, polynomial]
  | cons word words ih =>
      have step : 31 * UInt32.ofInt start + UInt32.ofInt word = .ofInt (31 * start + word) := by
        rw [UInt32.ofInt_add, UInt32.ofInt_mul]
        rfl
      calc roll (.ofInt start) ((word :: words).map .ofInt)
          = roll (31 * .ofInt start + .ofInt word) (words.map .ofInt) := rfl
        _ = .ofInt ((31 * start + word) * 31 ^ words.length + polynomial words) := by
            rw [step, ih]
        _ = .ofInt (start * 31 ^ (word :: words).length + polynomial (word :: words)) := by
            rw [polynomial_cons, List.length_cons]
            congr 1
            ring

/-! ## Signed integers -/

theorem signed32_eq (hash : UInt32) : signed32 hash = Int.bmod hash.toNat (2 ^ 32) :=
  BitVec.toInt_eq_toNat_bmod hash.toBitVec

theorem toNat_ofInt (value : Int) : ((UInt32.ofInt value).toNat : Int) = value % (2 ^ 32 : Nat) := by
  rw [UInt32.ofInt, UInt32.toNat_ofNat']
  omega

theorem signed32_ofInt (value : Int) : signed32 (.ofInt value) = Int.bmod value (2 ^ 32) := by
  rw [signed32_eq, toNat_ofInt]
  exact Int.emod_bmod value (2 ^ 32)

theorem ofInt_signed32 (hash : UInt32) : .ofInt (signed32 hash) = hash := by
  have bound := hash.toNat_lt
  rw [← UInt32.toNat_inj, ← Int.natCast_inj, toNat_ofInt, signed32_eq, Int.bmod_emod]
  omega

theorem ofInt_natCast (unit : Nat) : UInt32.ofInt unit = UInt32.ofNat unit := by
  rw [← UInt32.toNat_inj, ← Int.natCast_inj, toNat_ofInt, UInt32.toNat_ofNat']
  rfl

theorem ofInt_code (datum : Datum) : .ofInt (code datum) = rollDatum datum :=
  ofInt_signed32 (rollDatum datum)

theorem natAbs_code (datum : Datum) : (code datum).natAbs ≤ 2 ^ 31 := by
  have above := Int.le_bmod (x := (rollDatum datum).toNat) (show 0 < 2 ^ 32 by decide)
  have below := Int.bmod_le (x := (rollDatum datum).toNat) (show 0 < 2 ^ 32 by decide)
  rw [code, signed32_eq]
  omega

/-! ## Texts and lists -/

section Texts

variable {text second : String} {units : List Nat}

theorem words_of_encodes (encodes : Text.Encodes text.toList units) :
    (text.toList.flatMap Text.units16).map (fun unit => UInt32.ofNat unit) =
      (units.map Int.ofNat).map .ofInt := by
  rw [← Text.encodes_iff.mp encodes, List.map_map]
  exact List.map_congr_left fun unit _ => (ofInt_natCast unit).symm

theorem rollDatum_string (encodes : Text.Encodes text.toList units) :
    rollDatum (.string text) = .ofInt (polynomial (units.map Int.ofNat)) := by
  have rolled := roll_ofInt 0 (units.map Int.ofNat)
  rw [Int.zero_mul, Int.zero_add] at rolled
  rw [rollDatum, rollText, words_of_encodes encodes]
  exact rolled

theorem code_string (encodes : Text.Encodes text.toList units) :
    code (.string text) = Int.bmod (polynomial (units.map Int.ofNat)) (2 ^ 32) := by
  rw [code, rollDatum_string encodes, signed32_ofInt]

/-- The hash of the first text is where the units of the second one go on. -/
theorem rollDatum_append (first : String) (encodes : Text.Encodes second.toList units) :
    rollDatum (.string (first ++ second)) =
      .ofInt (code (.string first) * 31 ^ units.length + code (.string second)) := by
  have goesOn := roll_ofInt (code (.string first)) (units.map Int.ofNat)
  rw [List.length_map, ofInt_code] at goesOn
  calc rollDatum (.string (first ++ second))
      = roll (rollDatum (.string first)) ((units.map Int.ofNat).map .ofInt) := by
        rw [rollDatum, rollText, String.toList_append, List.flatMap_append, List.map_append,
          words_of_encodes encodes, roll, List.foldl_append]
        rfl
    _ = .ofInt (code (.string first) * 31 ^ units.length) +
          .ofInt (polynomial (units.map Int.ofNat)) := by rw [goesOn, UInt32.ofInt_add]
    _ = .ofInt (code (.string first) * 31 ^ units.length + code (.string second)) := by
        rw [UInt32.ofInt_add, ofInt_code, rollDatum_string encodes]

theorem code_append (first : String) (encodes : Text.Encodes second.toList units) :
    code (.string (first ++ second)) =
      Int.bmod (code (.string first) * 31 ^ units.length + code (.string second)) (2 ^ 32) := by
  rw [code, rollDatum_append first encodes, signed32_ofInt]

end Texts

theorem rollItems_eq_map (items : List Datum) : rollItems items = items.map rollDatum := by
  induction items with
  | nil => rfl
  | cons item items ih => rw [rollItems, ih, List.map_cons]

theorem code_list (items : List Datum) :
    code (.list items) = Int.bmod (31 ^ items.length + polynomial (items.map code)) (2 ^ 32) := by
  have words : rollItems items = (items.map code).map .ofInt := by
    rw [rollItems_eq_map, List.map_map]
    exact List.map_congr_left fun item _ => (ofInt_code item).symm
  have rolled := roll_ofInt 1 (items.map code)
  rw [Int.one_mul, List.length_map] at rolled
  rw [code, rollDatum, words, ← signed32_ofInt, ← rolled]
  rfl

end Hash

namespace Library

theorem rollingHash_gives {setting : Setting} {session after : Session} {argument : Value}
    {datum : Datum}
    (comes : (argument.resolveDatum .null).run setting session = (.ok datum, after)) :
    ∃ call number, Registry.standard.bind "utils.hash_j" [argument] = .ok call ∧
      number.IsInteger (Hash.code datum) ∧
      call.result.run setting session = (.ok (Value.number number).operand, after) := by
  have small := (Hash.natAbs_code datum).trans_lt (show 2 ^ 31 < 2 ^ 53 by decide)
  refine ⟨_, .ofInt (Hash.code datum), Registry.bind_of_resolve rfl,
    Number.isInteger_ofInt small, ?_⟩
  have replies : ((argument.resolveDatum .null).bind fun datum =>
      .done (Reply.number (.ofInt (Hash.code datum)))).run setting session =
        (.ok (.number (.ofInt (Hash.code datum))), after) := Script.run_bind_of_ok comes
  rw [Call.result]
  exact Script.run_bind_of_ok replies

/-- The rolling hash of a text is the polynomial of its 16-bit units, that of a list the polynomial of
the hashes of its items behind a leading one, both cut to 32 bits with a sign. So the hash of a text
goes on where the hash of the text in front of it ends. The library's function answers the hash of
what its argument comes to. -/
theorem rollingHash_polynomial :
    (∀ text : String, ∃! units, Text.Encodes text.toList units) ∧
    (∀ (text : String) (units : List Nat), Text.Encodes text.toList units →
      Hash.code (.string text) =
        Int.bmod (Hash.polynomial (units.map Int.ofNat)) (2 ^ 32)) ∧
    (∀ items : List Datum, Hash.code (.list items) =
      Int.bmod (31 ^ items.length + Hash.polynomial (items.map Hash.code)) (2 ^ 32)) ∧
    (∀ (first second : String) (units : List Nat), Text.Encodes second.toList units →
      Hash.code (.string (first ++ second)) =
        Int.bmod (Hash.code (.string first) * 31 ^ units.length + Hash.code (.string second))
          (2 ^ 32)) ∧
    ∀ (setting : Setting) (session after : Session) (argument : Value) (datum : Datum),
      (argument.resolveDatum .null).run setting session = (.ok datum, after) →
      ∃ call number, Registry.standard.bind "utils.hash_j" [argument] = .ok call ∧
        number.IsInteger (Hash.code datum) ∧
        call.result.run setting session = (.ok (Value.number number).operand, after) := by
  refine ⟨fun text => ?_, fun text units => Hash.code_string, Hash.code_list,
    fun first second units => Hash.code_append first, fun _ _ _ _ _ => rollingHash_gives⟩
  exact ⟨_, Text.encodes_iff.mpr rfl, fun _ encodes => Text.encodes_iff.mp encodes⟩

/-- A character beyond the basic plane counts as two units, and a hash that grows is cut. -/
theorem rollingHash_polynomial_surrogates :
    let items : List Value := [.string "😀", .boolean true]
    Text.Encodes "😀".toList [0xD83D, 0xDE00] ∧
    Hash.code (.string "😀") = 0xD83D * 31 + 0xDE00 ∧
    Hash.code (.string ("hello " ++ "😀")) = -790961295 ∧
    ∃ call number, Registry.standard.bind "utils.hash_j" [.array items] = .ok call ∧
      number.IsInteger (31 ^ 2 + (0xD83D * 31 + 0xDE00) * 31 + 1231) ∧
      call.result.run ⟨.null, .strict, fun _ => .zero⟩ .fresh =
        (.ok (Value.number number).operand, .fresh) := by
  intro items
  have encodes : Text.Encodes "😀".toList [0xD83D, 0xDE00] := Text.encodes_iff.mpr (by decide)
  obtain ⟨-, texts, lists, appended, answers⟩ := rollingHash_polynomial
  have listed : Hash.code (.list [.string "😀", .boolean true]) =
      31 ^ 2 + (0xD83D * 31 + 0xDE00) * 31 + 1231 := (lists _).trans (by decide)
  refine ⟨encodes, (texts _ _ encodes).trans (by decide),
    (appended "hello " _ _ encodes).trans (by decide), ?_⟩
  rw [← listed]
  exact answers _ _ _ _ _ rfl

end Library

end Verdict
