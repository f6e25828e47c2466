/-!
A text cut at every occurrence of one character. There is one piece more than there are
occurrences, and no piece has the character in it.
-/

namespace DeskCalc.Text

/-- The pieces of a text between the occurrences of `separator`. -/
def pieces (separator : Char) : List Char → List (List Char)
  | [] => [[]]
  | c :: cs =>
    if c = separator then [] :: pieces separator cs
    else match pieces separator cs with
      | [] => [[c]]
      | piece :: rest => (c :: piece) :: rest

def split (separator : Char) (s : String) : List String :=
  (pieces separator s.toList).map String.ofList

end DeskCalc.Text
