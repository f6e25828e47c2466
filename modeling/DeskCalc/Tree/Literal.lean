import DeskCalc.Number.Double
import DeskCalc.Tree.Basic

/-!
The texts that stand for numbers of a type: an integer of 64 bits, or a decimal number whose nearest
double is finite.
-/

namespace DeskCalc

/-- The text stands for a number of the type. -/
def Ty.admits : Ty → String → Bool
  | .int, text => (Number.readWord? text).isSome
  | .float, text => (Number.readFiniteDouble? text).isSome

/-- The text of a number begins with the sign of negative numbers. -/
def isNegativeLiteral (text : String) : Bool :=
  text.toList.head? = some '-'

end DeskCalc
