import DeskCalc.Machine.Value
import DeskCalc.Text.Split

/-!
The instructions of the stack machine and their listing, one instruction to a line. In the listing
the name of a typed instruction begins with the first letter of its type.
-/

namespace DeskCalc

/-- Instructions. A load pushes a variable, a store pops one; printing leaves the value where it
is. -/
inductive Instruction where
  | push (value : Value)
  | load (ty : Ty) (slot : Nat)
  | store (ty : Ty) (slot : Nat)
  | arithmetic (operator : Operator) (ty : Ty)
  | widen
  | print (ty : Ty)
  | pop

def Ty.letter : Ty → String
  | .int => "i"
  | .float => "f"

def Operator.mnemonic : Operator → String
  | .add => "add"
  | .sub => "sub"
  | .mul => "mul"
  | .div => "div"

namespace Instruction

def written : Instruction → String
  | push value => value.ty.letter ++ "push " ++ value.written
  | load ty slot => ty.letter ++ "load " ++ toString slot
  | store ty slot => ty.letter ++ "store " ++ toString slot
  | arithmetic operator ty => ty.letter ++ operator.mnemonic
  | widen => "i2f"
  | print ty => ty.letter ++ "print"
  | pop => "pop"

/-- The natural number of a text of digits. -/
def readSlot? (s : String) : Option Nat :=
  if Number.isDigits s.toList then some (Number.digitsValue s.toList) else none

/-- The instruction that a line of a listing stands for. -/
def read? (line : String) : Option Instruction :=
  match Text.split ' ' line with
  | ["ipush", n] => (Number.readWord? n).map fun n => push (.int n)
  | ["fpush", x] => (Number.readDouble? x).map fun x => push (.float x)
  | ["iload", slot] => (readSlot? slot).map (load .int)
  | ["fload", slot] => (readSlot? slot).map (load .float)
  | ["istore", slot] => (readSlot? slot).map (store .int)
  | ["fstore", slot] => (readSlot? slot).map (store .float)
  | ["iadd"] => some (arithmetic .add .int)
  | ["fadd"] => some (arithmetic .add .float)
  | ["isub"] => some (arithmetic .sub .int)
  | ["fsub"] => some (arithmetic .sub .float)
  | ["imul"] => some (arithmetic .mul .int)
  | ["fmul"] => some (arithmetic .mul .float)
  | ["idiv"] => some (arithmetic .div .int)
  | ["fdiv"] => some (arithmetic .div .float)
  | ["i2f"] => some widen
  | ["iprint"] => some (print .int)
  | ["fprint"] => some (print .float)
  | ["pop"] => some pop
  | _ => none

end Instruction

/-- Instructions, and the number of slots that they may use. -/
structure Bytecode where
  slots : Nat
  instructions : List Instruction

/-- The listing of a program: the number of slots, then the instructions, each on its own line. -/
def Bytecode.written (p : Bytecode) : String :=
  ".slots " ++ toString p.slots ++ "\n" ++
    String.join (p.instructions.map fun i => i.written ++ "\n")

end DeskCalc
