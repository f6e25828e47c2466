import DeskCalc.Machine.Instruction

/-!
The stack machine. An instruction either does its work or stops the machine; what it had taken off
the stack by then is gone, and nothing else has changed. A run begins with an empty stack and with
slots that were never set, which read as zero of whatever type is asked for.
-/

namespace DeskCalc

/-- What stops the machine. -/
inductive Fault where
  | stackUnderflow
  | typeMismatch (expected found : Ty)
  | slotOutOfRange (slot : Nat)
  | divisionByZero
  | overflow
  deriving Repr, DecidableEq

/-- A fault and the number of the instruction at which it arose. -/
structure RuntimeError where
  fault : Fault
  instruction : Nat
  deriving Repr, DecidableEq

def Fault.name : Fault → String
  | .stackUnderflow => "StackUnderflow"
  | .typeMismatch .. => "TypeMismatch"
  | .slotOutOfRange .. => "SlotOutOfRange"
  | .divisionByZero => "DivisionByZero"
  | .overflow => "Overflow"

def RuntimeError.message (e : RuntimeError) : String :=
  let place := " at instruction " ++ toString e.instruction
  match e.fault with
  | .stackUnderflow => "stack underflow" ++ place
  | .typeMismatch expected found =>
    "expected " ++ expected.name ++ " on the stack" ++ place ++ ", found " ++ found.name
  | .slotOutOfRange slot => "slot " ++ toString slot ++ " out of range" ++ place
  | .divisionByZero => "division by zero" ++ place
  | .overflow => "integer overflow" ++ place

/-- The machine: the stack with its top first, the slots, and what was printed so far. -/
structure Machine where
  stack : List Value
  slots : Array (Option Value)
  output : List Value

namespace Machine

def fresh : Machine :=
  ⟨[], #[], []⟩

/-- What an instruction does to the machine; a fault leaves it as it was when the fault arose. -/
abbrev Action := EStateM Fault Machine

/-! ### Operands -/

def push (v : Value) : Action Unit :=
  modify fun m => { m with stack := v :: m.stack }

/-- The value on top of the stack, which stays there. -/
def peek : Action Value := fun m =>
  match m.stack with
  | [] => .error .stackUnderflow m
  | v :: _ => .ok v m

def pop : Action Value := fun m =>
  match m.stack with
  | [] => .error .stackUnderflow m
  | v :: stack => .ok v { m with stack }

def asWord : Value → Action Int64
  | .int n => pure n
  | .float _ => throw (.typeMismatch .int .float)

def asDouble : Value → Action Float
  | .float x => pure x
  | .int _ => throw (.typeMismatch .float .int)

/-- The value, which has to be of the given type. -/
def asType (ty : Ty) (v : Value) : Action Value :=
  if v.ty = ty then pure v else throw (.typeMismatch ty v.ty)

def readSlot (slot : Nat) : Action (Option Value) := fun m =>
  match m.slots[slot]? with
  | some held => .ok held m
  | none => .error (.slotOutOfRange slot) m

def writeSlot (slot : Nat) (v : Value) : Action Unit := fun m =>
  if slot < m.slots.size then .ok () { m with slots := m.slots.setIfInBounds slot (some v) }
  else .error (.slotOutOfRange slot) m

/-! ### Arithmetic -/

def zeroOnTop (ty : Ty) (m : Machine) : Bool :=
  match ty, m.stack with
  | .int, .int n :: _ => n = 0
  | .float, .float x :: _ => x == 0.0
  | _, _ => false

/-- Stops a division whose divisor is a zero. -/
def refuseZero (ty : Ty) : Action Unit := fun m =>
  if m.zeroOnTop ty then .error .divisionByZero m else .ok () m

/-- Pops two words, the right one first, and pushes the result of the operation. -/
def wordOperation (operator : Operator) : Action Unit := do
  let right ← asWord (← pop)
  let left ← asWord (← pop)
  match operator.word? left right with
  | some n => push (.int n)
  | none => throw .overflow

/-- Pops two doubles, the right one first, and pushes the result of the operation. -/
def doubleOperation (operator : Operator) : Action Unit := do
  let right ← asDouble (← pop)
  let left ← asDouble (← pop)
  push (.float (operator.double left right))

/-- An operation on two operands of a type. A divisor is tested for zero before any operand is
taken. -/
def operation (operator : Operator) (ty : Ty) : Action Unit := do
  if operator = .div then refuseZero ty
  match ty with
  | .int => wordOperation operator
  | .float => doubleOperation operator

/-! ### Instructions -/

def step : Instruction → Action Unit
  | .push v => push v
  | .load ty slot => do
    let held ← readSlot slot
    push (← asType ty (held.getD (.zero ty)))
  | .store ty slot => do
    let v ← asType ty (← pop)
    writeSlot slot v
  | .arithmetic operator ty => operation operator ty
  | .widen => do
    let n ← asWord (← pop)
    push (.float (Number.wordToDouble n))
  | .print ty => do
    let v ← asType ty (← peek)
    modify fun m => { m with output := m.output ++ [v] }
  | .pop => do
    let _ ← pop

/-- Runs instructions in order, the first of them having the given number. -/
def execute : List Instruction → Nat → EStateM RuntimeError Machine Unit
  | [], _ => pure ()
  | i :: is, number => fun m =>
    match step i m with
    | .ok () m => execute is (number + 1) m
    | .error fault m => .error ⟨fault, number⟩ m

/-- The machine before the first instruction of a program. -/
def loaded (p : Bytecode) : Machine :=
  ⟨[], Array.replicate p.slots none, []⟩

/-- Runs a program from its beginning, whatever was run before, and takes what it printed. -/
def run (p : Bytecode) : EStateM RuntimeError Machine (List Value) := fun _ =>
  match execute p.instructions 0 (loaded p) with
  | .ok () m => .ok m.output { m with output := [] }
  | .error e m => .error e m

end Machine

end DeskCalc
