import DeskCalc.Code.Step

/-!
Steps as text for the calculator `dc`. The first variables live in registers of one letter, all
further ones in the array of the register `i`, which printing uses as a place to drop the printed
value. Numbers have no types there, so conversions leave no trace; an integer division is done with
no fractional digits and the precision is set back after it.
-/

namespace DeskCalc

/-- The registers for variables, in the order of their slots. -/
def registers : List Char :=
  "abcdefghjklmnopqrstuvwxyzABCDEFGHIJKLMNOPQRSTUVWXYZ".toList

/-- Where the variable of a slot lives: a register of its own, or an index into the array. -/
inductive Storage where
  | register (name : Char)
  | spilled (index : Nat)
  deriving Repr, DecidableEq

def Storage.ofSlot (slot : Nat) : Storage :=
  match registers[slot]? with
  | some name => .register name
  | none => .spilled (slot - registers.length)

namespace Storage

def load : Storage → String
  | register name => "l" ++ name.toString
  | spilled index => toString index ++ " ;i"

def store : Storage → String
  | register name => "s" ++ name.toString
  | spilled index => toString index ++ " :i"

end Storage

def precisionCommand (precision : Nat) : String :=
  toString precision ++ " k\n"

/-- The text of a literal, with `_` for the sign of a negative number. -/
def dcLiteral (text : String) : String :=
  match text.toList with
  | '-' :: digits => "_" ++ String.ofList digits
  | _ => text

def Step.dcText (precision : Nat) : Step → String
  | preamble => precisionCommand precision
  | literal text _ => dcLiteral text ++ " "
  | load slot _ => (Storage.ofSlot slot).load ++ " "
  | store slot _ => (Storage.ofSlot slot).store ++ "\n"
  | binary .div .int => "0 k\n/\n" ++ precisionCommand precision
  | binary operator _ => operator.sign ++ "\n"
  | convert _ _ => ""
  | print slot _ => (Storage.ofSlot slot).load ++ "\np\nsi\n"

def dcText (precision : Nat) (steps : List Step) : String :=
  String.join (steps.map (Step.dcText precision))

end DeskCalc
