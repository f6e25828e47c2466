import DeskCalc.Code.Step
import DeskCalc.Machine.Instruction

/-!
Steps as instructions of the stack machine. A conversion is an instruction only where it widens an
integer, and printing a variable loads it, prints it and drops it.
-/

namespace DeskCalc

/-- The value of a literal, if the machine has one for it. -/
def literalValue? (text : String) : Ty → Option Value
  | .int => (Number.readWord? text).map Value.int
  | .float => (Number.readFiniteDouble? text).map Value.float

/-- The machine holds the literals that are admitted for their type. -/
theorem literalValue?_isSome (text : String) (ty : Ty) :
    (literalValue? text ty).isSome = ty.admits text := by
  cases ty <;> simp [literalValue?, Ty.admits]

/-- The instructions of a step. A literal without a value is not among the steps for this target
and has none. -/
def Step.instructions : Step → List Instruction
  | preamble => []
  | literal text ty => ((literalValue? text ty).map Instruction.push).toList
  | load slot ty => [.load ty slot]
  | store slot ty => [.store ty slot]
  | binary operator ty => [.arithmetic operator ty]
  | convert .int .float => [.widen]
  | convert _ _ => []
  | print slot ty => [.load ty slot, .print ty, .pop]

def Bytecode.ofSteps (slots : Nat) (steps : List Step) : Bytecode :=
  ⟨slots, steps.flatMap Step.instructions⟩

end DeskCalc
