import DeskCalc.Tree.Literal

/-!
The steps that a program comes down to, the same for every target: operands before the operation
that uses them, and variables as numbered slots.
-/

namespace DeskCalc

/-- The targets that code is written for: text for the calculator `dc`, or the listing of a program
for the stack machine. -/
inductive Target where
  | dc
  | bytecode
  deriving Repr, DecidableEq

namespace Target

def extension : Target → String
  | dc => "dc"
  | bytecode => "bc"

/-- The target has a way to write the literal: the machine holds only numbers of the type, while
the calculator is handed the text as it is. -/
def holds (target : Target) (text : String) (ty : Ty) : Bool :=
  match target with
  | dc => true
  | bytecode => ty.admits text

end Target

/-- The number of fractional digits that the calculator works with if nothing else is asked. -/
def defaultPrecision : Nat := 20

/-- What code is written for, and the number of fractional digits in case the target counts
them. -/
structure Options where
  target : Target
  precision : Nat
  deriving Repr, DecidableEq

/-- The steps of a program. A type is that of the operands, and of the variable that a slot
holds. -/
inductive Step where
  | preamble
  | literal (text : String) (ty : Ty)
  | load (slot : Nat) (ty : Ty)
  | store (slot : Nat) (ty : Ty)
  | binary (operator : Operator) (ty : Ty)
  | convert (source target : Ty)
  | print (slot : Nat) (ty : Ty)
  deriving Repr, DecidableEq

end DeskCalc
