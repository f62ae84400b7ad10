import Mathlib.Data.Nat.Digits.Lemmas
import Verdict.Library.Hashes

/-! The Murmur hash against its published algorithm. The algorithm is stated here as it is
published: words are natural numbers below `2^64`, bytes are read by their offsets, and what is left
behind the last block enters a row of fifteen cases at the number of bytes left, where each case
falls through to the one below. -/

set_option autoImplicit false

namespace Verdict

namespace Murmur

/-- Results of arithmetic are cut to words. -/
def cut (value : Nat) : Nat := value % 2 ^ 64

def rotate (word count : Nat) : Nat := cut (word <<< count) ||| word >>> (64 - count)

def firstFactor : Nat := 0x87c37b91114253d5

def secondFactor : Nat := 0x4cf5ad432745937f

def mixFirst (word : Nat) : Nat := cut (rotate (cut (word * firstFactor)) 31 * secondFactor)

def mixSecond (word : Nat) : Nat := cut (rotate (cut (word * secondFactor)) 33 * firstFactor)

def finalize (word : Nat) : Nat :=
  let word := word ^^^ word >>> 33
  let word := cut (word * 0xff51afd7ed558ccd)
  let word := word ^^^ word >>> 33
  let word := cut (word * 0xc4ceb9fe1a85ec53)
  word ^^^ word >>> 33

def byteAt (bytes : List UInt8) (offset : Nat) : Nat := (bytes.getD offset 0).toNat

/-- The word of the eight bytes from an offset on, least significant first. -/
def wordAt (bytes : List UInt8) (offset : Nat) : Nat :=
  ((List.range 8).map fun index => byteAt bytes (offset + index) <<< (8 * index)).sum

/-- Mixes the block with an index into the two words of the hash. -/
def mixBlock (bytes : List UInt8) (words : Nat × Nat) (index : Nat) : Nat × Nat :=
  let first := words.1 ^^^ mixFirst (wordAt bytes (16 * index))
  let first := cut (cut (rotate first 27 + words.2) * 5 + 0x52dce729)
  let second := words.2 ^^^ mixSecond (wordAt bytes (16 * index + 8))
  let second := cut (cut (rotate second 31 + first) * 5 + 0x38495ab5)
  (first, second)

/-- The two words of the hash, and the words in which the bytes of the tail are collected. -/
structure Registers where
  first : Nat
  second : Nat
  firstTail : Nat
  secondTail : Nat

/-- What the case of `index + 1` bytes does before it falls through: it collects the last of these
bytes, and with the ninth or the first of all it mixes in what has been collected. -/
def tailCase (bytes : List UInt8) (start index : Nat) (registers : Registers) : Registers :=
  let byte := byteAt bytes (start + index)
  if 8 ≤ index then
    let collected := registers.secondTail ^^^ byte <<< (8 * (index - 8))
    { registers with
      second :=
        if index = 8 then registers.second ^^^ mixSecond collected else registers.second
      secondTail := collected }
  else
    let collected := registers.firstTail ^^^ byte <<< (8 * index)
    { registers with
      first := if index = 0 then registers.first ^^^ mixFirst collected else registers.first
      firstTail := collected }

def fallThrough (bytes : List UInt8) (start : Nat) : Nat → Registers → Registers
  | 0, registers => registers
  | index + 1, registers => fallThrough bytes start index (tailCase bytes start index registers)

/-- Mixes the length in and finalizes both words. -/
def finish (words : Nat × Nat) (length : Nat) : Nat × Nat :=
  let first := words.1 ^^^ cut length
  let second := words.2 ^^^ cut length
  let first := cut (first + second)
  let second := cut (second + first)
  let first := finalize first
  let second := finalize second
  let first := cut (first + second)
  (first, cut (second + first))

/-- The published hash of bytes with a seed. -/
def hash (seed : Nat) (bytes : List UInt8) : Nat × Nat :=
  let blocks := bytes.length / 16
  let words := (List.range blocks).foldl (mixBlock bytes) (seed, seed)
  let registers := fallThrough bytes (16 * blocks) (bytes.length % 16) ⟨words.1, words.2, 0, 0⟩
  finish (registers.first, registers.second) bytes.length

/-- The number that bytes spell, least significant first. -/
def spelled (bytes : List UInt8) : Nat := Nat.ofDigits 256 (bytes.map UInt8.toNat)

theorem spelled_cons (byte : UInt8) (bytes : List UInt8) :
    spelled (byte :: bytes) = byte.toNat + 256 * spelled bytes := Nat.ofDigits_cons

theorem spelled_lt (bytes : List UInt8) : spelled bytes < 256 ^ bytes.length := by
  have digits : ∀ digit ∈ bytes.map UInt8.toNat, digit < 256 := by
    intro digit member
    obtain ⟨byte, -, rfl⟩ := List.mem_map.mp member
    exact byte.toNat_lt
  simpa [spelled] using Nat.ofDigits_lt_base_pow_length (by decide) digits

theorem byteAt_eq {bytes : List UInt8} {offset : Nat} (inside : offset < bytes.length) :
    byteAt bytes offset = bytes[offset].toNat := by
  simp [byteAt, inside]

theorem sum_byteAt {bytes : List UInt8} {offset count : Nat}
    (inside : offset + count ≤ bytes.length) :
    ((List.range count).map fun index => byteAt bytes (offset + index) <<< (8 * index)).sum =
      spelled ((bytes.drop offset).take count) := by
  induction count with
  | zero => rfl
  | succ count ih =>
      have last : count < (bytes.drop offset).length := by
        rw [List.length_drop]
        omega
      have length : ((bytes.drop offset).take count).length = count := by
        rw [List.length_take]
        omega
      rw [List.range_succ, List.map_append, List.sum_append, ih (by omega),
        List.take_succ_eq_append_getElem last, spelled, spelled, List.map_append,
        Nat.ofDigits_append, List.length_map, length]
      have byte : byteAt bytes (offset + count) <<< (8 * count) =
          256 ^ count * bytes[offset + count].toNat := by
        rw [byteAt_eq (by omega), Nat.shiftLeft_eq, Nat.pow_mul, Nat.mul_comm]
      simp [byte]

theorem wordAt_eq {bytes : List UInt8} {offset : Nat} (inside : offset + 8 ≤ bytes.length) :
    wordAt bytes offset = spelled ((bytes.drop offset).take 8) := sum_byteAt inside

/-- What has been collected when the bytes from an index on have passed, in a word whose first byte
is the one at the base. -/
def collected (bytes : List UInt8) (base index : Nat) : Nat :=
  spelled (bytes.drop index) <<< (8 * (index - base))

theorem collected_base (bytes : List UInt8) (base : Nat) :
    collected bytes base base = spelled (bytes.drop base) := by
  simp [collected]

theorem collected_length (bytes : List UInt8) (base : Nat) :
    collected bytes base bytes.length = 0 := by
  simp [collected, spelled]

/-- The bits of a byte are beside those of the bytes behind it. -/
theorem collected_step {bytes : List UInt8} {base index : Nat} (inside : index < bytes.length)
    (reached : base ≤ index) :
    collected bytes base (index + 1) ^^^ bytes[index].toNat <<< (8 * (index - base)) =
      collected bytes base index := by
  have beside (high low : Nat) (byte : low < 2 ^ 8) : high <<< 8 ^^^ low = low + 256 * high := by
    have disjoint : high <<< 8 ^^^ low = high <<< 8 ||| low := by
      apply Nat.eq_of_testBit_eq
      intro bit
      -- No bit is set in both: the shifted word has none below eight, the byte none above.
      rw [Nat.testBit_xor, Nat.testBit_or, Nat.testBit_shiftLeft]
      by_cases above : 8 ≤ bit
      · have power := Nat.pow_le_pow_right (Nat.two_pos) above
        have clear := Nat.testBit_lt_two_pow (byte.trans_le power)
        simp [clear]
      · simp [above]
    rw [disjoint, ← Nat.shiftLeft_add_eq_or_of_lt byte, Nat.shiftLeft_eq]
    omega
  have shift : 8 * (index + 1 - base) = 8 + 8 * (index - base) := by omega
  rw [collected, collected, shift, Nat.shiftLeft_add, ← Nat.shiftLeft_xor_distrib,
    beside _ _ bytes[index].toNat_lt, List.drop_eq_getElem_cons inside, spelled_cons]

section Tail

variable {bytes tail : List UInt8} {start : Nat}

theorem tailCase_second (behind : bytes.drop start = tail) {index : Nat}
    (inside : index < tail.length) (reached : 8 ≤ index) (registers : Registers)
    (collects : registers.secondTail = collected tail 8 (index + 1)) :
    tailCase bytes start index registers =
      { registers with
        second :=
          if index = 8 then registers.second ^^^ mixSecond (spelled (tail.drop 8))
          else registers.second
        secondTail := collected tail 8 index } := by
  have byte : byteAt bytes (start + index) = tail[index].toNat := by
    subst behind
    rw [List.length_drop] at inside
    rw [byteAt_eq (by omega), List.getElem_drop]
  have step := collected_step inside reached
  rw [tailCase, if_pos reached, byte, collects, step]
  split
  · rename_i ninth
    subst ninth
    rw [collected_base]
  · rfl

theorem tailCase_first (behind : bytes.drop start = tail) {index : Nat}
    (inside : index < tail.length) (below : index < 8) (registers : Registers)
    (collects : registers.firstTail = collected (tail.take 8) 0 (index + 1)) :
    tailCase bytes start index registers =
      { registers with
        first :=
          if index = 0 then registers.first ^^^ mixFirst (spelled (tail.take 8))
          else registers.first
        firstTail := collected (tail.take 8) 0 index } := by
  have front : index < (tail.take 8).length := by
    rw [List.length_take]
    omega
  have byte : byteAt bytes (start + index) = (tail.take 8)[index].toNat := by
    subst behind
    rw [List.length_drop] at inside
    rw [byteAt_eq (by omega), List.getElem_take, List.getElem_drop]
  have step := collected_step front (Nat.zero_le index)
  rw [Nat.sub_zero] at step
  rw [tailCase, if_neg (by omega), byte, collects, step]
  split
  · rename_i last
    subst last
    rw [collected_base, List.drop_zero]
  · rfl

/-- From the ninth case on the second word is done, and nothing else has changed that counts. -/
theorem fallThrough_second (behind : bytes.drop start = tail) {count : Nat} (reached : 9 ≤ count)
    (inside : count ≤ tail.length) (first second firstTail : Nat) :
    fallThrough bytes start count ⟨first, second, firstTail, collected tail 8 count⟩ =
      fallThrough bytes start 8 ⟨first, second ^^^ mixSecond (spelled (tail.drop 8)), firstTail,
        spelled (tail.drop 8)⟩ := by
  induction count, reached using Nat.le_induction with
  | base =>
      rw [fallThrough, tailCase_second behind inside (by omega) _ rfl, collected_base]
      rfl
  | succ count reached ih =>
      rw [fallThrough, tailCase_second behind inside (by omega) _ rfl, if_neg (by omega)]
      exact ih (by omega)

theorem fallThrough_first (behind : bytes.drop start = tail) {count : Nat} (reached : 1 ≤ count)
    (few : count ≤ 8) (inside : count ≤ tail.length) (first second secondTail : Nat) :
    fallThrough bytes start count
        ⟨first, second, collected (tail.take 8) 0 count, secondTail⟩ =
      ⟨first ^^^ mixFirst (spelled (tail.take 8)), second, spelled (tail.take 8), secondTail⟩ := by
  induction count, reached using Nat.le_induction with
  | base =>
      rw [fallThrough, tailCase_first behind inside (by omega) _ rfl, collected_base]
      rfl
  | succ count reached ih =>
      rw [fallThrough, tailCase_first behind inside (by omega) _ rfl, if_neg (by omega)]
      exact ih (by omega) (by omega)

/-- A row of cases entered at the length of the tail mixes up to eight bytes into the first word,
and those behind them into the second. -/
theorem fallThrough_tail (behind : bytes.drop start = tail) (few : tail.length < 16)
    (first second : Nat) :
    let registers := fallThrough bytes start tail.length ⟨first, second, 0, 0⟩
    registers.first =
        (if tail.isEmpty then first else first ^^^ mixFirst (spelled (tail.take 8))) ∧
      registers.second =
        if 8 < tail.length then second ^^^ mixSecond (spelled (tail.drop 8)) else second := by
  intro registers
  have nothing : collected (tail.take 8) 0 (tail.take 8).length = 0 := collected_length _ _
  rw [List.length_take] at nothing
  -- With more than eight bytes the cases of the second word come first and fall into the others.
  by_cases long : 8 < tail.length
  · have full : tail.isEmpty = false :=
      List.isEmpty_eq_false_iff.mpr (List.length_pos_iff.mp (by omega))
    have ninth := fallThrough_second behind long le_rfl first second 0
    have eighth := fallThrough_first behind (show 1 ≤ 8 by decide) le_rfl long.le first
      (second ^^^ mixSecond (spelled (tail.drop 8))) (spelled (tail.drop 8))
    rw [collected_length] at ninth
    rw [Nat.min_eq_left long.le] at nothing
    rw [nothing] at eighth
    have whole : registers = _ := ninth.trans eighth
    simp [whole, full, long]
  · rw [Nat.min_eq_right (by omega)] at nothing
    by_cases noTail : tail.isEmpty
    · obtain rfl := List.isEmpty_iff.mp noTail
      simp [registers, fallThrough]
    · have reached : 1 ≤ tail.length := List.length_pos_iff.mpr (by simpa using noTail)
      have front := fallThrough_first behind reached (by omega) le_rfl first second 0
      rw [nothing] at front
      have whole : registers = _ := front
      simp [whole, noTail, long]

end Tail

end Murmur

namespace Hash

theorem toNat_littleEndian {bytes : List UInt8} (short : bytes.length ≤ 8) :
    (littleEndian bytes).toNat = Murmur.spelled bytes := by
  induction bytes with
  | nil => rfl
  | cons byte bytes ih =>
      rw [List.length_cons] at short
      have fits : Murmur.spelled bytes < 256 ^ 7 :=
        (Murmur.spelled_lt bytes).trans_le (Nat.pow_le_pow_right (by decide) (by omega))
      have low : byte.toNat < 2 ^ 8 := byte.toNat_lt
      have high : Murmur.spelled bytes <<< 8 < 2 ^ 64 := by
        rw [Nat.shiftLeft_eq]
        omega
      rw [littleEndian, UInt64.toNat_or, UInt64.toNat_shiftLeft, ih (by omega),
        Murmur.spelled_cons]
      change byte.toNat ||| Murmur.spelled bytes <<< 8 % 2 ^ 64 = _
      rw [Nat.mod_eq_of_lt high, Nat.or_comm, ← Nat.shiftLeft_add_eq_or_of_lt low, Nat.shiftLeft_eq]
      omega

theorem toNat_mixFirst (word : UInt64) :
    (mixFirst word).toNat = Murmur.mixFirst word.toNat := by
  simp [mixFirst, Murmur.mixFirst, rotateLeft, Murmur.rotate, Murmur.cut, firstFactor,
    secondFactor, Murmur.firstFactor, Murmur.secondFactor]

theorem toNat_mixSecond (word : UInt64) :
    (mixSecond word).toNat = Murmur.mixSecond word.toNat := by
  simp [mixSecond, Murmur.mixSecond, rotateLeft, Murmur.rotate, Murmur.cut, firstFactor,
    secondFactor, Murmur.firstFactor, Murmur.secondFactor]

theorem toNat_avalanche (word : UInt64) : (avalanche word).toNat = Murmur.finalize word.toNat := by
  simp [avalanche, Murmur.finalize, Murmur.cut]

namespace Lanes

def words (lanes : Lanes) : Nat × Nat := (lanes.first.toNat, lanes.second.toNat)

theorem words_mixBlock (lanes : Lanes) {bytes : List UInt8} {index : Nat}
    (inside : 16 * index + 16 ≤ bytes.length) :
    (lanes.mixBlock ((bytes.drop (16 * index)).take 16)).words =
      Murmur.mixBlock bytes lanes.words index := by
  have first := Murmur.wordAt_eq (show 16 * index + 8 ≤ bytes.length by omega)
  have second := Murmur.wordAt_eq (show 16 * index + 8 + 8 ≤ bytes.length by omega)
  rw [← toNat_littleEndian (by simp)] at first second
  have firstBytes : ((bytes.drop (16 * index)).take 16).take 8 =
      (bytes.drop (16 * index)).take 8 := by
    rw [List.take_take]
    rfl
  have secondBytes : ((bytes.drop (16 * index)).take 16).drop 8 =
      (bytes.drop (16 * index + 8)).take 8 := by
    rw [List.drop_take, List.drop_drop]
  rw [mixBlock, firstBytes, secondBytes, Murmur.mixBlock, first, second, words, words]
  simp [← toNat_mixFirst, ← toNat_mixSecond, rotateLeft, Murmur.rotate, Murmur.cut]
  omega

theorem words_mixTail (lanes : Lanes) {bytes tail : List UInt8} {start : Nat}
    (behind : bytes.drop start = tail) (few : tail.length < 16) :
    let registers :=
      Murmur.fallThrough bytes start tail.length ⟨lanes.words.1, lanes.words.2, 0, 0⟩
    (lanes.mixTail tail).words = (registers.first, registers.second) := by
  obtain ⟨first, second⟩ := Murmur.fallThrough_tail behind few lanes.words.1 lanes.words.2
  dsimp only
  rw [first, second, ← toNat_littleEndian (by simp), ← toNat_littleEndian (by simp; omega),
    mixTail, ← toNat_mixFirst, ← toNat_mixSecond]
  refine Prod.ext ?_ ?_
  · dsimp only [words]
    split <;> simp
  · dsimp only [words]
    split <;> simp

theorem words_finish (lanes : Lanes) (length : Nat) :
    (lanes.finish length).words = Murmur.finish lanes.words length := by
  simp [finish, words, Murmur.finish, Murmur.cut, toNat_avalanche]

end Lanes

theorem mixBytes_eq (blocks : Nat) (lanes : Lanes) (bytes : List UInt8) :
    mixBytes blocks lanes bytes =
      ((List.range blocks).foldl
        (fun lanes index => lanes.mixBlock ((bytes.drop (16 * index)).take 16)) lanes).mixTail
        (bytes.drop (16 * blocks)) := by
  induction blocks generalizing lanes bytes with
  | zero => rfl
  | succ blocks ih =>
      rw [mixBytes, ih, List.range_succ_eq_map, List.foldl_cons, List.foldl_map]
      simp only [List.drop_drop, Nat.mul_succ, Nat.mul_zero, List.drop_zero, Nat.add_comm]

theorem words_blocks {bytes : List UInt8} {blocks : Nat} (inside : 16 * blocks ≤ bytes.length)
    (lanes : Lanes) :
    ((List.range blocks).foldl
        (fun lanes index => lanes.mixBlock ((bytes.drop (16 * index)).take 16)) lanes).words =
      (List.range blocks).foldl (Murmur.mixBlock bytes) lanes.words := by
  induction blocks with
  | zero => rfl
  | succ blocks ih =>
      rw [List.range_succ, List.foldl_append, List.foldl_append, ← ih (by omega)]
      exact Lanes.words_mixBlock _ (by omega)

theorem signed64_eq (word : UInt64) : signed64 word = Int.bmod word.toNat (2 ^ 64) :=
  BitVec.toInt_eq_toNat_bmod word.toBitVec

theorem words_murmur (seed : UInt64) (bytes : List UInt8) :
    (murmur seed bytes).words = Murmur.hash seed.toNat bytes := by
  have length := Nat.div_add_mod bytes.length 16
  have few := Nat.mod_lt bytes.length (show 16 > 0 by decide)
  have rest : (bytes.drop (16 * (bytes.length / 16))).length = bytes.length % 16 := by
    rw [List.length_drop]
    omega
  rw [murmur, Lanes.words_finish, mixBytes_eq, Lanes.words_mixTail _ rfl (by omega), rest,
    words_blocks (by omega)]
  rfl

end Hash

/-- The Murmur hash of bytes is the published one, for every seed and every number of bytes, and the
library's function answers its first word for the bytes of a datum, read in two's complement. -/
theorem Library.murmurHash_published :
    (∀ (seed : UInt64) (bytes : List UInt8),
      ((Hash.murmur seed bytes).first.toNat, (Hash.murmur seed bytes).second.toNat) =
        Murmur.hash seed.toNat bytes) ∧
    Library.murmurHash = Library.hashing "utils.hash_m128" fun datum =>
      Int.bmod (Murmur.hash 0 (Hash.datumBytes datum)).1 (2 ^ 64) := by
  refine ⟨Hash.words_murmur, congrArg (hashing "utils.hash_m128") (funext fun datum => ?_)⟩
  have first := congrArg Prod.fst (Hash.words_murmur 0 (Hash.datumBytes datum))
  exact (Hash.signed64_eq _).trans (congrArg (fun word : Nat => Int.bmod word (2 ^ 64)) first)

/-- A published hash of two blocks and a tail of eleven bytes. -/
example :
    Murmur.hash 0
        ("The quick brown fox jumps over the lazy dog".toList.map fun character =>
          UInt8.ofNat character.toNat) =
      (0xe34bbc7bbc071b6c, 0x7a433ca9c49a9347) := by
  decide +kernel

end Verdict
