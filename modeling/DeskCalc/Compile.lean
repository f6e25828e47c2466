import DeskCalc.Code.Bytecode
import DeskCalc.Code.DcText
import DeskCalc.Code.Generate
import DeskCalc.Machine.Run
import DeskCalc.Parse.Stmt
import DeskCalc.Typing.Check

/-!
From source text to the output for a target: parsing, checking, generating steps and writing them,
stopping at the first thing that is wrong; and running a source text on the stack machine.
-/

namespace DeskCalc

/-- The tree of a source text with the conversions that it needs. -/
def checkSource (source : String) (file : Option String) : Except Diagnostic Program := do
  let p ← parse source file
  let checked := p.check file
  checked.verdict.map fun () => checked.tree

namespace Generator

/-- The program for the machine that the steps so far make up. -/
def bytecode (g : Generator) : Bytecode :=
  .ofSteps g.slotsUsed g.steps

/-- The steps so far, written for the target. -/
def output (g : Generator) (precision : Nat) : String :=
  match g.target with
  | .dc => dcText precision g.steps
  | .bytecode => g.bytecode.written

end Generator

/-- The generator after all steps of a program. -/
def generate (p : Program) (target : Target) (file : Option String) :
    Except Diagnostic Generator :=
  match Generate.program p (.start target file) with
  | .ok () g => .ok g
  | .error d _ => .error d

def Program.compile (p : Program) (file : Option String) (options : Options) :
    Except Diagnostic String :=
  (generate p options.target file).map (·.output options.precision)

def compile (source : String) (file : Option String) (options : Options) :
    Except Diagnostic String := do
  let p ← checkSource source file
  p.compile file options

def Program.bytecode (p : Program) (file : Option String) : Except Diagnostic Bytecode :=
  (generate p .bytecode file).map (·.bytecode)

end DeskCalc
