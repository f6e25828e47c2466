import DeskCalc.Diagnostic.Basic
import DeskCalc.Text.Blank
import DeskCalc.Text.Split

/-!
Reports: a diagnostic shown beside the line of source text that it points at.
-/

namespace DeskCalc

/-! ### Lines of a source text -/

/-- The characters without the carriage returns at the end. -/
def dropReturns (cs : List Char) : List Char :=
  (cs.reverse.dropWhile (· = '\r')).reverse

/-- The line of a source text with the given number, counted from one, without the carriage returns
at its end. -/
def sourceLine? (source : String) (line : Nat) : Option String :=
  if line = 0 then none
  else ((Text.pieces '\n' source.toList)[line - 1]?).map fun cs => String.ofList (dropReturns cs)

/-! ### Reports -/

/-- The bar above and below the source line, under the one beside it. -/
def margin (line : Nat) : String :=
  String.ofList (List.replicate ((toString line).length + 1) ' ' ++ ['|', '\n'])

/-- The source line, without blank characters around it, between two bars; nothing if the source
has no such line. -/
def excerpt (source : String) (line : Nat) : String :=
  match sourceLine? source line with
  | none => ""
  | some text =>
    margin line ++ toString line ++ " | " ++ String.ofList (Text.trimBlank text.toList) ++ "\n" ++
      margin line

/-- A diagnostic beside the source it arose from: its name and advice, the file, the source line and
the message. -/
def Diagnostic.report (d : Diagnostic) (source : String) : String :=
  "Error: " ++ d.cause.name ++
    (match d.cause.tip? with
      | some tip => " (" ++ tip ++ ")"
      | none => "") ++ "\n" ++
    "-> " ++ d.file ++ "\n" ++ excerpt source d.line ++ d.message

end DeskCalc
