import Verdict.Json.Basic
import Verdict.Number.Numeral
import Verdict.Text.Pieces

/-!
# Pointers

A pointer such as `/a/0/b` names one place in a document by the tokens between its slashes. In a
token `~1` stands for a slash and `~0` for a tilde. A token is a key where it meets an object and a
plain decimal index where it meets an array; the empty pointer names the whole document.
-/

set_option autoImplicit false

namespace Verdict

inductive PointerDefect where
  | noSlash
  | tilde
deriving DecidableEq

namespace PointerDefect

def message : PointerDefect → String
  | .noSlash => "pointer must start with '/'"
  | .tilde => "'~' must be followed by 0 or 1"

end PointerDefect

namespace Pointer

/-- Whether `0` or `1` follows every tilde. -/
def tildesEscape : List Char → Bool
  | [] => true
  | ['~'] => false
  | '~' :: code :: rest => (code = '0' || code = '1') && tildesEscape rest
  | _ :: rest => tildesEscape rest

def defect? (text : String) : Option PointerDefect :=
  let characters := text.toList
  if !characters.isEmpty && characters.head? ≠ some '/' then some .noSlash
  else if tildesEscape characters then none
  else some .tilde

end Pointer

structure Pointer where
  text : String
  sound : Pointer.defect? text = none

namespace Pointer

def compile (text : String) : Except PointerDefect Pointer :=
  match sound : defect? text with
  | none => .ok ⟨text, sound⟩
  | some defect => .error defect

def unescape : List Char → List Char
  | '~' :: '1' :: rest => '/' :: unescape rest
  | '~' :: '0' :: rest => '~' :: unescape rest
  | character :: rest => character :: unescape rest
  | [] => []

def tokens (text : List Char) : List (List Char) := (Text.pieces '/' text).tail.map unescape

/-- The index that a token spells in plain decimal, without sign and leading zeros. -/
def index? (token : List Char) : Option Nat :=
  if token.isEmpty || !token.all Char.isDigit then none
  else if token.head? = some '0' && token ≠ ['0'] then none
  else some (digitsValue token)

def follow (json : Json) (token : List Char) : Option Json :=
  match json with
  | .object fields => fields.lookup (String.ofList token)
  | .array items => do
      let index ← index? token
      items[index]?
  | _ => none

def locate (pointer : Pointer) (document : Json) : Option Json :=
  (tokens pointer.text.toList).foldlM follow document

theorem ext_text {left right : Pointer} (texts : left.text = right.text) : left = right := by
  cases left
  cases right
  cases texts
  rfl

end Pointer

end Verdict
