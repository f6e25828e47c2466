/-!
Classes of characters as tables of code point ranges: a character belongs to the class when its
code lies in one of the ranges, both ends included.
-/

namespace DeskCalc.Text

/-- The code points from `first` to `last`, both included. -/
structure CodeRange where
  first : Nat
  last : Nat
  deriving Repr, DecidableEq

namespace CodeRange

def contains (r : CodeRange) (n : Nat) : Bool :=
  r.first ≤ n && n ≤ r.last

/-- The code of `c` lies in one of the ranges of `table`. -/
def covers (table : List CodeRange) (c : Char) : Bool :=
  table.any (·.contains c.toNat)

end CodeRange

end DeskCalc.Text
