import DeskCalc.Machine.Run
import DeskCalc.Proofs.Outcome

/-!
Many runs on one machine. A machine in use keeps all that a run leaves in it, the number of the
instruction it was at included, and a run sets each of these before anything looks at it: what comes of
a run is what comes of it on a new machine, and the place that is left behind is never read
(`InUse.run_forgets`). Main statement: the results of any programs in a row are those of each alone
(`runs_leave_no_trace`).
-/

namespace DeskCalc

namespace Machine

/-! ### What is seen of a run -/

/-- What is seen of a run: what it printed or the error, and how many values it left on the stack. -/
structure Report where
  result : Except RuntimeError (List Value)
  depth : Nat

def report : EStateM.Result RuntimeError Machine (List Value) → Report
  | .ok printed m => ⟨.ok printed, m.stack.length⟩
  | .error e m => ⟨.error e, m.stack.length⟩

/-- The program alone on a new machine. -/
def alone (p : Bytecode) : Report :=
  report (run p fresh)

/-- Programs in a row, each on the machine that the one before it left. -/
def reports : List Bytecode → Machine → List Report
  | [], _ => []
  | p :: programs, m => report (run p m) :: reports programs (stateOf (run p m))

/-! ### Machines in use -/

/-- A machine in use. It stays at the instruction where it was when a run is over. -/
structure InUse extends Machine where
  place : Nat

namespace InUse

/-- What is done with a machine in use; an error leaves it as it was when the error arose. -/
abbrev Work := EStateM RuntimeError InUse

/-- Empties the stack and the output and makes new slots. The place is not touched. -/
def clear (slots : Nat) : Work Unit :=
  modify fun t => { t with stack := [], slots := Array.replicate slots none, output := [] }

def goTo (number : Nat) : Work Unit :=
  modify fun t => { t with place := number }

/-- Carries out an instruction. A fault is reported for the place where the machine is. -/
def perform (i : Instruction) : Work Unit := fun t =>
  match step i t.toMachine with
  | .ok () m => .ok () { t with toMachine := m }
  | .error f m => .error ⟨f, t.place⟩ { t with toMachine := m }

/-- Carries out instructions in order, the first of them having the given number. -/
def performAll : List Instruction → Nat → Work Unit
  | [], _ => pure ()
  | i :: code, number => do
    goTo number
    perform i
    performAll code (number + 1)

def takeOutput : Work (List Value) :=
  modifyGet fun t => (t.output, { t with output := [] })

def run (p : Bytecode) : Work (List Value) := do
  clear p.slots
  performAll p.instructions 0
  takeOutput

/-- Programs in a row on one machine in use. -/
def reports : List Bytecode → InUse → List Report
  | [], _ => []
  | p :: programs, t =>
    report (translated id id toMachine (run p t)) :: reports programs (stateOf (run p t))

/-! ### Places are set before they are read -/

/-- Instructions do the same from any place, and report errors for the same places. -/
theorem performAll_eq (code : List Instruction) (number : Nat) (t : InUse) :
    translated id id toMachine (performAll code number t) = execute code number t.toMachine := by
  induction code generalizing number t with
  | nil => rfl
  | cons i code ih =>
    show translated id id toMachine (EStateM.bind (perform i) _ ⟨t.toMachine, number⟩) = _
    simp only [EStateM.bind, perform, execute]
    cases step i t.toMachine with
    | ok u m => exact ih (number + 1) ⟨m, number⟩
    | error f m => rfl

/-- **A run forgets what it finds**: whatever the machine in use holds and wherever it is, the run does
what it does on any other machine. -/
theorem run_forgets (p : Bytecode) (t : InUse) (m : Machine) :
    translated id id toMachine (run p t) = Machine.run p m := by
  have hcode := performAll_eq p.instructions 0 ⟨loaded p, t.place⟩
  show translated id id toMachine (EStateM.bind (performAll p.instructions 0) (fun _ => takeOutput)
    ⟨loaded p, t.place⟩) = _
  unfold EStateM.bind Machine.run
  rw [← hcode]
  cases performAll p.instructions 0 ⟨loaded p, t.place⟩ with
  | ok u t' => rfl
  | error e t' => rfl

end InUse

/-! ### Programs in a row -/

/-- **A machine can be used again after anything.** For programs in a row on one machine, whatever it
holds at first and whatever each of them leaves behind, the result of each, printed values or error, and
the number of values on the stack after it are those of the program alone on a new machine. This holds as
well of a machine in use, which keeps the place of the last instruction too. -/
theorem runs_leave_no_trace (programs : List Bytecode) :
    (∀ m : Machine, reports programs m = programs.map alone) ∧
      ∀ t : InUse, t.reports programs = programs.map alone := by
  induction programs with
  | nil => exact ⟨fun _ => rfl, fun _ => rfl⟩
  | cons p programs ih =>
    obtain ⟨ihm, iht⟩ := ih
    refine ⟨fun m => ?_, fun t => ?_⟩
    · rw [reports, ihm, List.map_cons]
      rfl
    · rw [InUse.reports, iht, InUse.run_forgets p t fresh, List.map_cons]
      rfl

/-- A fault in the middle leaves a value on the stack, a word in the slot and a value that was printed;
the next program finds nothing of it. -/
example (m : Machine) :
    reports [⟨1, [.push (.int 7), .store .int 0, .push (.int 3), .print .int, .load .float 0]⟩,
      ⟨1, [.load .float 0, .print .float, .pop, .pop]⟩, ⟨1, [.load .float 0, .print .float]⟩] m =
      [⟨.error ⟨.typeMismatch .float .int, 4⟩, 1⟩, ⟨.error ⟨.stackUnderflow, 3⟩, 0⟩,
        ⟨.ok [.zero .float], 1⟩] :=
  rfl

end Machine

end DeskCalc
