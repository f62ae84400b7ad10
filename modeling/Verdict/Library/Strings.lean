import Verdict.Library.Shape
import Verdict.Pattern.Engine
import Verdict.Text.CaseMapping

/-!
# String functions

Lengths and bounds count characters. An operand that cannot be resolved counts as the empty string.

Patterns are compiled by an engine. The pattern is put between the signs of an unnamed group and
anchors and compiled with them as one text: what it says about groups and comments reaches these
signs.
-/

set_option autoImplicit false

namespace Verdict

namespace Library

/-- The characters of a text from one bound up to but without another, both cut to whole numbers;
illegal unless the bounds lie in order within the text. A bound that is not a number counts as
zero. -/
def substring (text : String) (start stop : Number) : Except Illegality String :=
  let length := text.length
  if start.less .zero || (Number.ofNat length).less stop || stop.less start then
    .error (.substringBounds start stop length)
  else .ok (String.ofList ((text.toList.drop start.toNat).take (stop - start).toNat))

def replySubstring (text : String) (start stop : Number) : Script Reply :=
  match substring text start stop with
  | .ok part => .done (.string part)
  | .error cause => .report (.illegal cause) (.done (.string ""))

def onText (name : String) (reply : String → Reply) : Function :=
  ⟨name, [.unary name fun operand =>
    (operand.stringOr "").bind fun text => .done (reply text)]⟩

def stringLength : Function := onText "str.len" fun text => .number (.ofNat text.length)

def lowerCase : Function := onText "str.lower" fun text => .string (Text.toLower text)

def upperCase : Function := onText "str.upper" fun text => .string (Text.toUpper text)

/-- Without a second bound a substring runs to the end of the text. -/
def substrings : Function :=
  ⟨"str.substr", [
    .binary "str.substr" fun operand start =>
      (operand.stringOr "").bind fun text => (start.numberOr .zero).bind fun first =>
        replySubstring text first.truncate (.ofNat text.length),
    .ternary "str.substr" fun operand start stop =>
      (operand.stringOr "").bind fun text => (start.numberOr .zero).bind fun first =>
        (stop.numberOr (.ofNat text.length)).bind fun last =>
          replySubstring text first.truncate last.truncate]⟩

def anchored (pattern : String) : String := "^(?:" ++ pattern ++ ")$"

/-- The pattern comes first. The empty pattern is illegal before the text is resolved, a refused one
after. -/
def fitsPattern (engine : Pattern.Engine) : Function :=
  ⟨"str.match", [.binary "str.match" fun operand subject =>
    (operand.stringOr "").bind fun pattern =>
      if pattern.isEmpty then .report (.illegal .emptyPattern) (.done (.boolean false))
      else
        (subject.stringOr "").bind fun text =>
          match engine.compile? (anchored pattern) with
          | some search => .done (.boolean (search text))
          | none => .report (.illegal (.malformedPattern pattern)) (.done (.boolean false))]⟩

def strings (engine : Pattern.Engine) : List Function :=
  [stringLength, lowerCase, upperCase, substrings, fitsPattern engine]

end Library

end Verdict
