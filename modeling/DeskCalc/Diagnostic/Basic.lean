import DeskCalc.Text.Quoted
import DeskCalc.Token.Basic

/-!
Diagnostics: what can be wrong with a program, in which stage of its treatment it shows, and how it
is told. A diagnostic is a cause together with the line and the file that it points at.
-/

namespace DeskCalc

/-- The stages in which something wrong can show. Internal causes are trees that the parser does not
build, or that were not type checked before code was generated for them. -/
inductive Stage where
  | lexical
  | grammatical
  | semantic
  | internal
  deriving Repr, DecidableEq

def Stage.name : Stage → String
  | .lexical => "lexical"
  | .grammatical => "syntax"
  | .semantic => "semantic"
  | .internal => "internal"

/-- What can be wrong with a program. -/
inductive Cause where
  | unrecognisedCharacter (character : Char)
  | malformedNumber (token message : String)
  | unexpectedToken (expected found : Token.Kind)
  | unexpectedTokenDetailed (found : Token.Kind) (message : String)
  | variableAlreadyDeclared (name : String)
  | variableNotDeclared (name : String)
  | narrowingConversion (name expected received : String)
  | missingNode (node field : String)
  | invalidLiteral (literal ty : String)
  | unboundSymbol (name : String)
  | uncheckedTypeMismatch (context left right : String)
  deriving Repr, DecidableEq

namespace Cause

def name : Cause → String
  | unrecognisedCharacter .. => "UnrecognisedCharacter"
  | malformedNumber .. => "MalformedNumber"
  | unexpectedToken .. => "UnexpectedToken"
  | unexpectedTokenDetailed .. => "UnexpectedTokenDetailed"
  | variableAlreadyDeclared .. => "VariableAlreadyDeclared"
  | variableNotDeclared .. => "VariableNotDeclared"
  | narrowingConversion .. => "NarrowingConversion"
  | missingNode .. => "MissingNode"
  | invalidLiteral .. => "InvalidLiteral"
  | unboundSymbol .. => "UnboundSymbol"
  | uncheckedTypeMismatch .. => "UncheckedTypeMismatch"

def stage : Cause → Stage
  | unrecognisedCharacter .. | malformedNumber .. => .lexical
  | unexpectedToken .. | unexpectedTokenDetailed .. => .grammatical
  | variableAlreadyDeclared .. | variableNotDeclared .. | narrowingConversion .. => .semantic
  | missingNode .. | invalidLiteral .. | unboundSymbol .. | uncheckedTypeMismatch .. => .internal

def message : Cause → String
  | unrecognisedCharacter character => "unrecognised character " ++ Text.quoteChar character
  | malformedNumber token message => "malformed number " ++ Text.quoteText token ++ ": " ++ message
  | unexpectedToken expected found => "expected " ++ expected.name ++ ", found " ++ found.name
  | unexpectedTokenDetailed found message => "unexpected " ++ found.name ++ " (" ++ message ++ ")"
  | variableAlreadyDeclared name =>
    "variable " ++ Text.quoteText name ++ " already declared"
  | variableNotDeclared name => "variable " ++ Text.quoteText name ++ " not declared"
  | narrowingConversion name expected received =>
    "cannot convert " ++ received ++ " to " ++ expected ++ " for " ++ Text.quoteText name
  | missingNode node field => node ++ " node is missing its " ++ field
  | invalidLiteral literal ty =>
    Text.quoteText literal ++ " is not a valid " ++ ty ++ " literal"
  | unboundSymbol name => "no storage slot bound for " ++ Text.quoteText name
  | uncheckedTypeMismatch context left right =>
    context ++ ": " ++ left ++ " does not match " ++ right

/-- Advice on a cause, where there is some to give. -/
def tip? : Cause → Option String
  | unrecognisedCharacter .. => none
  | malformedNumber .. =>
    some "Integers must fit in 64 bits and floats need 1 to 5 digits after the point"
  | unexpectedToken expected found =>
    some ("Expected `" ++ expected.name ++ "`, found `" ++ found.name ++ "`" ++
      if expected = .semicolon then ", did you miss a semicolon?" else "")
  | unexpectedTokenDetailed found message =>
    some ("Unexpected token: `" ++ found.name ++ "`, " ++ message)
  | variableAlreadyDeclared name =>
    some ("Variable `" ++ name ++ "` already declared in this scope")
  | variableNotDeclared name =>
    some ("Declare `" ++ name ++ "` with `int` or `float` before using it")
  | narrowingConversion name expected received =>
    some ("`" ++ name ++ "` is `" ++ expected ++ "` and a `" ++ received ++
      "` value cannot be narrowed into it")
  | uncheckedTypeMismatch .. => some "Run the type checker before generating code"
  | missingNode .. | invalidLiteral .. | unboundSymbol .. => none

end Cause

/-- The file that diagnostics name when none is given. -/
def defaultFile : String := "shell"

/-- A cause and the place it points at. -/
structure Diagnostic where
  cause : Cause
  line : Nat
  file : String
  deriving Repr, DecidableEq

namespace Diagnostic

def stage (d : Diagnostic) : Stage :=
  d.cause.stage

def message (d : Diagnostic) : String :=
  d.stage.name ++ " error at line " ++ toString d.line ++ ": " ++ d.cause.message

end Diagnostic

end DeskCalc
