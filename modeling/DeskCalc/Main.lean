import DeskCalc.CommandLine.Run

/-!
The program on the real file system.
-/

namespace DeskCalc

open Files (FileAccess Reason)

/-- The reason behind an error of the system. -/
def reasonOf : IO.Error → Reason
  | .noFileOrDirectory .. => .notFound
  | .inappropriateType _ 21 _ => .isADirectory
  | .inappropriateType .. => .notADirectory
  | .resourceBusy .. => .busy
  | e => .other (toString e)

/-- An action, with the reason in place of an error. -/
def attempt {α : Type} (action : IO α) : IO (Except Reason α) := do
  try return .ok (← action)
  catch e => return .error (reasonOf e)

/-- The name of the temporary file with the given number. -/
def temporaryName (number : Nat) : String :=
  ".tmp" ++ toString number

instance : FileAccess IO String where
  read path := do
    match ← attempt (IO.FS.readBinFile path) with
    | .error reason => return .error reason
    | .ok bytes =>
      match String.fromUTF8? bytes with
      | some text => return .ok text
      | none => return .error .notText
  createTemporary directory := attempt do
    let path := directory ++ "/" ++ temporaryName (← IO.rand 0 UInt64.size)
    let _ ← IO.FS.Handle.mk path .writeNew
    return path
  path := id
  write path text := attempt (IO.FS.writeFile path text)
  rename path output := attempt (IO.FS.rename path output)
  remove path := do
    let _ ← attempt (IO.FS.removeFile path)

end DeskCalc

/-- Answers the command line on the standard outputs. -/
def main (arguments : List String) : IO UInt32 := do
  let report : DeskCalc.CommandLine.Report ← DeskCalc.CommandLine.call arguments
  (← IO.getStdout).putStr report.output
  (← IO.getStderr).putStr report.errors
  return report.exitCode.toUInt32
