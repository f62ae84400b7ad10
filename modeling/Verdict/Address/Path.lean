import Verdict.Json.Basic
import Verdict.Number.Numeral
import Verdict.Text.Blank

/-!
# Paths

A path such as `$.a.b[0]` or `$['first name']` names one place in a document: keys are followed
through objects and indexes through arrays, negative ones from the end. A `Path` is a text together
with the steps that the text spells, so equal texts have equal steps.
-/

set_option autoImplicit false

namespace Verdict

inductive PathStep where
  | key (name : String)
  | index (position : Int)
deriving DecidableEq

inductive PathDefect where
  | noRoot
  | emptyKey
  | wildcard
  | openQuote
  | openBracket
  | selector (text : String)
  | noClosingBracket
  | unexpected (character : Char)
deriving DecidableEq

namespace PathDefect

def message : PathDefect → String
  | .noRoot => "path must start with '$'"
  | .emptyKey => "deep scan and empty keys are not supported"
  | .wildcard => "wildcards are not supported"
  | .openQuote => "unterminated quoted key"
  | .openBracket => "unterminated bracket"
  | .selector text => s!"unsupported selector '[{text}]'"
  | .noClosingBracket => "expected ']'"
  | .unexpected character => s!"unexpected '{character}'"

end PathDefect

namespace PathStep

def endsKey (character : Char) : Bool := character = '.' || character = '['

def readDotted (text : List Char) : Except PathDefect (PathStep × List Char) :=
  let name := text.takeWhile fun character => !endsKey character
  if name.isEmpty then .error .emptyKey
  else if name = ['*'] then .error .wildcard
  else .ok (.key (String.ofList name), text.dropWhile fun character => !endsKey character)

def splitAt? (closing : Char) : List Char → Option (List Char × List Char)
  | [] => none
  | character :: rest =>
      if character = closing then some ([], rest)
      else (splitAt? closing rest).map fun (before, after) => (character :: before, after)

/-- The index that a text spells with an optional sign, if a signed word of 64 bits holds it. -/
def readPosition? (text : List Char) : Option Int :=
  let (negative, digits) := match text with
    | '-' :: rest => (true, rest)
    | '+' :: rest => (false, rest)
    | _ => (false, text)
  if digits.isEmpty || !digits.all Char.isDigit then none
  else
    let magnitude : Int := digitsValue digits
    let value := if negative then -magnitude else magnitude
    if -0x8000000000000000 ≤ value && value < 0x8000000000000000 then some value else none

/-- Reads what stands between brackets, from behind the opening one: a quoted key, in which the
quote itself cannot occur, or an index. -/
def readBracketed (text : List Char) : Except PathDefect (PathStep × List Char) :=
  let quoted (quote : Char) (rest : List Char) : Except PathDefect (PathStep × List Char) :=
    match splitAt? quote rest with
    | none => .error .openQuote
    | some (name, ']' :: rest) => .ok (.key (String.ofList name), rest)
    | some _ => .error .noClosingBracket
  match text with
  | '\'' :: rest => quoted '\'' rest
  | '"' :: rest => quoted '"' rest
  | _ =>
      match splitAt? ']' text with
      | none => .error .openBracket
      | some (selector, rest) =>
          match readPosition? (Text.trim selector) with
          | none => .error (.selector (String.ofList selector))
          | some position => .ok (.index position, rest)

/-- Reads steps to the end of a text; `fuel` bounds their number. -/
def readAll : Nat → List Char → Except PathDefect (List PathStep)
  | _, [] => .ok []
  | 0, character :: _ => .error (.unexpected character)
  | fuel + 1, character :: rest => do
      let (step, rest) ←
        if character = '.' then readDotted rest
        else if character = '[' then readBracketed rest
        else .error (.unexpected character)
      let steps ← readAll fuel rest
      return step :: steps

def follow (step : PathStep) (json : Json) : Option Json :=
  match step, json with
  | .key name, json => json.field? name
  | .index position, .array items =>
      let fromStart := if position < 0 then (items.length : Int) + position else position
      if fromStart < 0 then none else items[fromStart.toNat]?
  | .index _, _ => none

end PathStep

def pathSteps (text : String) : Except PathDefect (List PathStep) :=
  match text.toList with
  | '$' :: rest => PathStep.readAll rest.length rest
  | _ => .error .noRoot

structure Path where
  text : String
  steps : List PathStep
  spelled : pathSteps text = .ok steps

namespace Path

def compile (text : String) : Except PathDefect Path :=
  match spelled : pathSteps text with
  | .ok steps => .ok ⟨text, steps, spelled⟩
  | .error defect => .error defect

def locate (path : Path) (document : Json) : Option Json :=
  path.steps.foldlM (fun json step => step.follow json) document

theorem ext_text {left right : Path} (texts : left.text = right.text) : left = right := by
  obtain ⟨text, steps, spelled⟩ := left
  obtain ⟨_, otherSteps, otherSpelled⟩ := right
  subst texts
  obtain rfl : steps = otherSteps := by
    rw [spelled] at otherSpelled
    exact Except.ok.inj otherSpelled
  rfl

end Path

end Verdict
