import DeskCalc.Compile
import DeskCalc.Files.Access

/-!
Compiling a file. The output appears only when everything before it went well, and then all at once.
-/

namespace DeskCalc.Files

/-- Why a file was not compiled: a step of access to files was refused, or there is something wrong
with the program in it. -/
inductive Failure where
  | access (e : AccessError)
  | diagnostic (d : Diagnostic)
  deriving Repr, DecidableEq

variable {m : Type → Type} {Handle : Type} [Monad m] [FileAccess m Handle]

/-- Compiles the program in the file `input`, which diagnostics call by its display name, and puts
the output into the file `output`. -/
def compileFile (input output : String) (options : Options) : m (Except Failure String) := do
  match ← readSource input with
  | .error e => return .error (.access e)
  | .ok source =>
    match compile source (displayName input) options with
    | .error d => return .error (.diagnostic d)
    | .ok text =>
      match ← writeAtomically output text with
      | .error e => return .error (.access e)
      | .ok () => return .ok text

end DeskCalc.Files
