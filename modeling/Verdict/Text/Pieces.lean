/-!
# Pieces between separators

Cutting a text at every occurrence of a character. There is always at least one piece, and joining
the pieces with the separator gives the text back.
-/

set_option autoImplicit false

namespace Verdict

namespace Text

def pieces (separator : Char) : List Char → List (List Char)
  | [] => [[]]
  | character :: rest =>
      if character = separator then [] :: pieces separator rest
      else
        match pieces separator rest with
        | [] => [[character]]
        | first :: others => (character :: first) :: others

end Text

end Verdict
