import Verdict.Datum

/-!
# Murmur hash

The 128-bit Murmur hash of the third generation for 64-bit words. Blocks of sixteen bytes are mixed
into two words in order; the bytes left over, least significant first, and the length are mixed in
at the end. All arithmetic is modulo `2^64`.
-/

set_option autoImplicit false

namespace Verdict

namespace Hash

def rotateLeft (word : UInt64) (count : UInt64) : UInt64 :=
  (word <<< count) ||| (word >>> (64 - count))

def firstFactor : UInt64 := 0x87c37b91114253d5

def secondFactor : UInt64 := 0x4cf5ad432745937f

def avalanche (word : UInt64) : UInt64 :=
  let word := word ^^^ (word >>> 33)
  let word := word * 0xff51afd7ed558ccd
  let word := word ^^^ (word >>> 33)
  let word := word * 0xc4ceb9fe1a85ec53
  word ^^^ (word >>> 33)

def mixFirst (word : UInt64) : UInt64 := rotateLeft (word * firstFactor) 31 * secondFactor

def mixSecond (word : UInt64) : UInt64 := rotateLeft (word * secondFactor) 33 * firstFactor

def littleEndian : List UInt8 → UInt64
  | [] => 0
  | byte :: bytes => byte.toUInt64 ||| (littleEndian bytes <<< 8)

structure Lanes where
  first : UInt64
  second : UInt64
deriving DecidableEq

namespace Lanes

def mixBlock (lanes : Lanes) (block : List UInt8) : Lanes :=
  let first := lanes.first ^^^ mixFirst (littleEndian (block.take 8))
  let first := (rotateLeft first 27 + lanes.second) * 5 + 0x52dce729
  let second := lanes.second ^^^ mixSecond (littleEndian (block.drop 8))
  let second := (rotateLeft second 31 + first) * 5 + 0x38495ab5
  ⟨first, second⟩

def mixTail (lanes : Lanes) (tail : List UInt8) : Lanes :=
  let second :=
    if 8 < tail.length then lanes.second ^^^ mixSecond (littleEndian (tail.drop 8))
    else lanes.second
  let first :=
    if tail.isEmpty then lanes.first else lanes.first ^^^ mixFirst (littleEndian (tail.take 8))
  ⟨first, second⟩

def finish (lanes : Lanes) (length : Nat) : Lanes :=
  let first := lanes.first ^^^ UInt64.ofNat length
  let second := lanes.second ^^^ UInt64.ofNat length
  let first := first + second
  let second := second + first
  let first := avalanche first
  let second := avalanche second
  let first := first + second
  ⟨first, second + first⟩

end Lanes

/-- Mixes all whole blocks in and then the rest; `blocks` is the number of blocks that are left. -/
def mixBytes : Nat → Lanes → List UInt8 → Lanes
  | 0, lanes, bytes => lanes.mixTail bytes
  | blocks + 1, lanes, bytes => mixBytes blocks (lanes.mixBlock (bytes.take 16)) (bytes.drop 16)

def murmur (seed : UInt64) (bytes : List UInt8) : Lanes :=
  (mixBytes (bytes.length / 16) ⟨seed, seed⟩ bytes).finish bytes.length

def wordBytes (word : UInt64) : List UInt8 :=
  (List.range 8).map fun index => (word >>> (8 * UInt64.ofNat index)).toUInt8

/-- The bytes under which a datum is hashed. Numbers enter by their bits, texts in UTF-8, lists and
objects by their text. -/
def datumBytes : Datum → List UInt8
  | .null => []
  | .boolean truth => [if truth then 1 else 0]
  | .number value => wordBytes value.bits
  | .string text => text.toUTF8.toList
  | datum => datum.display.toUTF8.toList

def signed64 (word : UInt64) : Int := word.toInt64.toInt

end Hash

end Verdict
