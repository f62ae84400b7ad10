import Verdict.Error
import Verdict.Token.Basic

/-!
# Cursors

A cursor stands before the tokens that are left of a text and knows the length of the text.
-/

set_option autoImplicit false

namespace Verdict

/-- The tokens that are left and the byte length of the text. -/
structure Cursor where
  tokens : List Spanned
  stop : Nat

namespace Cursor

def peek? (cursor : Cursor) : Option Spanned := cursor.tokens.head?

def advance (cursor : Cursor) : Cursor := { cursor with tokens := cursor.tokens.tail }

def isAtEnd (cursor : Cursor) : Bool := cursor.tokens.isEmpty

def offset (cursor : Cursor) : Nat :=
  match cursor.peek? with
  | some next => next.start
  | none => cursor.stop

def isAt (cursor : Cursor) (token : Token) : Bool :=
  match cursor.peek? with
  | some next => next.token.same token
  | none => false

def consume? (cursor : Cursor) (token : Token) : Option Cursor :=
  if cursor.isAt token then some cursor.advance else none

def endOfInput (cursor : Cursor) (expected : String) : ParseError :=
  ⟨.unexpectedEnd expected, cursor.stop⟩

/-- The next token, which must be the given one; any token is passed over. -/
def expect (cursor : Cursor) (token : Token) : Except ParseError Spanned :=
  let expected := s!"'{token.display}'"
  match cursor.peek? with
  | none => .error (cursor.endOfInput expected)
  | some next =>
      if next.token.same token then .ok next
      else .error ⟨.expectedToken expected next.token.display, next.start⟩

end Cursor

end Verdict
