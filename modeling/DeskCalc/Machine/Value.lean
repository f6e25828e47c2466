import DeskCalc.Number.Printed
import DeskCalc.Tree.Basic

/-!
The values of the stack machine, words of 64 bits and doubles, and arithmetic on them.
-/

namespace DeskCalc

inductive Value where
  | int (n : Int64)
  | float (x : Float)

namespace Value

def ty : Value → Ty
  | int _ => .int
  | float _ => .float

def zero : Ty → Value
  | .int => int 0
  | .float => float 0.0

def written : Value → String
  | int n => Number.printWord n
  | float x => Number.printDouble x

theorem ty_zero (t : Ty) : (zero t).ty = t := by
  cases t <;> rfl

end Value

namespace Operator

/-- The operation on exact integers; a quotient is cut off toward zero. -/
def exact : Operator → Int → Int → Int
  | add, l, r => l + r
  | sub, l, r => l - r
  | mul, l, r => l * r
  | div, l, r => l.tdiv r

/-- The operation on words, if its exact result fits. -/
def word? (operator : Operator) (l r : Int64) : Option Int64 :=
  Number.word? (operator.exact l.toInt r.toInt)

def double : Operator → Float → Float → Float
  | add, l, r => l + r
  | sub, l, r => l - r
  | mul, l, r => l * r
  | div, l, r => l / r

end Operator

end DeskCalc
