import DeskCalc.Files.Path

/-!
Access to files. The steps that may be asked of a file system are reading a file, making a temporary
file in a directory, writing it, and giving it its final name; each can be refused, and a refusal
names the path in question and the reason.
-/

namespace DeskCalc.Files

/-- Why a file cannot be accessed. -/
inductive Reason where
  | notFound
  | notADirectory
  | isADirectory
  | busy
  | nameTooLong
  | nulInName
  | notText
  | other (text : String)
  deriving Repr, DecidableEq

def Reason.message : Reason → String
  | notFound => "No such file or directory (os error 2)"
  | notADirectory => "Not a directory (os error 20)"
  | isADirectory => "Is a directory (os error 21)"
  | busy => "Device or resource busy (os error 16)"
  | nameTooLong => "File name too long (os error 36)"
  | nulInName => "file name contained an unexpected NUL byte"
  | notText => "stream did not contain valid UTF-8"
  | other text => text

/-- The steps that can be refused. -/
inductive AccessStep where
  | read
  | createTemporary
  | write
  | rename
  deriving Repr, DecidableEq

/-- A step that was refused, the path it was about, and the reason. -/
structure AccessError where
  step : AccessStep
  path : String
  reason : Reason
  deriving Repr, DecidableEq

def AccessError.message (e : AccessError) : String :=
  "failed to access " ++ e.path ++ ": " ++ e.reason.message

/-- A monad in which files can be accessed; a handle stands for a temporary file. -/
class FileAccess (m : Type → Type) (Handle : outParam Type) where
  /-- The text in a file. -/
  read : String → m (Except Reason String)
  /-- A new empty file in a directory, under a name that no other file has. -/
  createTemporary : String → m (Except Reason Handle)
  /-- The path of a temporary file. -/
  path : Handle → String
  /-- Puts a text into a temporary file. -/
  write : Handle → String → m (Except Reason Unit)
  /-- Gives a temporary file its final path, in place of any file that was there. -/
  rename : Handle → String → m (Except Reason Unit)
  /-- Takes a temporary file away. -/
  remove : Handle → m Unit

variable {m : Type → Type} {Handle : Type} [Monad m] [FileAccess m Handle]

def readSource (input : String) : m (Except AccessError String) := do
  return (← FileAccess.read input).mapError (⟨.read, input, ·⟩)

/-- Puts a text into a file all at once: it is written to a temporary file beside the output, which
then takes the place of the output. When a step is refused the temporary file is taken away. -/
def writeAtomically (output text : String) : m (Except AccessError Unit) := do
  match ← FileAccess.createTemporary (directory output) with
  | .error reason => return .error ⟨.createTemporary, directory output, reason⟩
  | .ok handle =>
    match ← FileAccess.write handle text with
    | .error reason =>
      FileAccess.remove handle
      return .error ⟨.write, FileAccess.path m handle, reason⟩
    | .ok () =>
      match ← FileAccess.rename handle output with
      | .error reason =>
        FileAccess.remove handle
        return .error ⟨.rename, output, reason⟩
      | .ok () => return .ok ()

end DeskCalc.Files
