/-!
Splitting text at separators, and joining the pieces again.
-/

namespace SealedContent.Text

/-- The pieces between separators; there is always at least one. -/
def splitWhere (isSeparator : Char → Bool) : List Char → List (List Char)
  | [] => [[]]
  | char :: rest =>
      if isSeparator char then [] :: splitWhere isSeparator rest
      else
        match splitWhere isSeparator rest with
        | [] => [[char]]
        | piece :: pieces => (char :: piece) :: pieces

def joinWith (separator : Char) : List (List Char) → List Char
  | [] => []
  | [piece] => piece
  | piece :: rest => piece ++ separator :: joinWith separator rest

/-- What stands before the first character that meets the test, and the rest with it. -/
def breakAt (stops : Char → Bool) (text : List Char) : List Char × List Char :=
  (text.takeWhile fun char => ¬ stops char, text.dropWhile fun char => ¬ stops char)

end SealedContent.Text
