import DeskCalc.CommandLine.Arguments
import DeskCalc.Diagnostic.Report
import DeskCalc.Files.Compile
import DeskCalc.Tree.Json
import DeskCalc.Tree.Printer

/-!
What the program does when it is called: its exit code and what it writes, with the changes to files
in the monad that gives access to them. What is wrong with a program or with the access to a file
ends with the code one, what is wrong with the arguments with the code two.
-/

namespace DeskCalc.CommandLine

open Files (FileAccess AccessError Failure readSource displayName compileFile)

/-- The end of a call: the exit code and the text written to the two outputs. -/
structure Report where
  exitCode : Nat
  output : String
  errors : String
  deriving Repr, DecidableEq

namespace Report

def success (output : String) : Report :=
  ⟨0, output, ""⟩

def failure (reason : String) : Report :=
  ⟨1, "", reason ++ "\n"⟩

/-- A diagnostic, beside the source it is about. -/
def ofDiagnostic (d : Diagnostic) (source : String) : Report :=
  failure (d.report source)

/-- A refused access, with its reason told once more as the cause of the failure. -/
def ofAccessError (e : AccessError) : Report :=
  failure (e.message ++ ": " ++ e.reason.message)

end Report

def versionText : String := "dcc 0.1.0"

def helpText : String :=
  "Compiles a tiny int/float language to dc\n\n" ++
  "Usage: dcc [OPTIONS] <COMMAND>\n\n" ++
  "Commands:\n" ++
  "  compile  Compile a source file\n" ++
  "  ast      Print the syntax tree of a source file\n" ++
  "  run      Compile to bytecode and run it on the built-in stack machine\n" ++
  "  help     Print this message or the help of the given subcommand(s)\n\n" ++
  "Options:\n" ++
  "  -v, --verbose...  Log pipeline stages to stderr (-v debug, -vv trace)\n" ++
  "  -h, --help        Print help\n" ++
  "  -V, --version     Print version\n"

def UsageError.message : UsageError → String
  | missingCommand => "a command is missing"
  | unknownCommand name => "unrecognized command " ++ name
  | unknownArgument argument => "unexpected argument " ++ argument
  | unneededValue name => name ++ " takes no value"
  | missingValue name => "a value is missing for " ++ name
  | invalidValue name value => "invalid value " ++ value ++ " for " ++ name
  | repeated name => name ++ " cannot be used more than once"
  | missingFile => "a file is missing"

variable {m : Type → Type} {Handle : Type} [Monad m] [FileAccess m Handle]

/-- Compiles a file. The output is called after the target unless a name is given. -/
def performCompile (file : String) (output : Option String) (options : Options) : m Report := do
  match ← compileFile file (output.getD ("out." ++ options.target.extension)) options with
  | .ok _ => return .success ""
  | .error (.access e) => return .ofAccessError e
  | .error (.diagnostic d) =>
    match ← readSource file with
    | .ok source => return .ofDiagnostic d source
    | .error _ => return .ofDiagnostic d ""

/-- The tree of a source text, as JSON or as text, with conversions if it is to be checked. -/
def treeReport (source name : String) (json checked : Bool) : Report :=
  match if checked then checkSource source name else parse source name with
  | .error d => .ofDiagnostic d source
  | .ok p => .success (if json then p.toJson.indented ++ "\n" else p.written)

/-- What a source text prints when it is run, each value on a line of its own. -/
def runReport (source name : String) : Report :=
  match checkSource source name >>= fun p => p.bytecode name with
  | .error d => .ofDiagnostic d source
  | .ok program =>
    match Machine.run program .fresh with
    | .ok values _ => .success (String.join (values.map fun v => v.written ++ "\n"))
    | .error e _ => .failure ("runtime error in " ++ name ++ ": " ++ e.message)

def withSource (file : String) (f : String → String → Report) : m Report := do
  match ← readSource file with
  | .error e => return .ofAccessError e
  | .ok source => return f source (displayName file)

def perform : Command → m Report
  | .compile file output options => performCompile file output options
  | .tree file json checked => withSource file fun source name => treeReport source name json checked
  | .run file => withSource file runReport

/-- Answers a command line. -/
def call (arguments : List String) : m Report := do
  match readArguments arguments with
  | .error e => return ⟨2, "", "error: " ++ e.message ++ "\n"⟩
  | .ok .version => return .success (versionText ++ "\n")
  | .ok .help => return .success helpText
  | .ok (.perform command _) => perform command

end DeskCalc.CommandLine
