import DeskCalc.Code.Bytecode
import DeskCalc.Code.DcText
import DeskCalc.Code.Generate
import DeskCalc.Code.Step
import DeskCalc.CommandLine.Arguments
import DeskCalc.CommandLine.Run
import DeskCalc.Compile
import DeskCalc.Diagnostic.Basic
import DeskCalc.Diagnostic.Report
import DeskCalc.Files.Access
import DeskCalc.Files.Compile
import DeskCalc.Files.Path
import DeskCalc.Files.Volume
import DeskCalc.Machine.Instruction
import DeskCalc.Machine.Run
import DeskCalc.Machine.Value
import DeskCalc.Main
import DeskCalc.Number.Decimal
import DeskCalc.Number.Double
import DeskCalc.Number.Integer
import DeskCalc.Number.Printed
import DeskCalc.Number.Shortest
import DeskCalc.Parse.Cursor
import DeskCalc.Parse.Expr
import DeskCalc.Parse.Stmt
import DeskCalc.Scopes
import DeskCalc.Text.Alphabetic
import DeskCalc.Text.Blank
import DeskCalc.Text.CodeRange
import DeskCalc.Text.Combining
import DeskCalc.Text.Json
import DeskCalc.Text.Numeric
import DeskCalc.Text.Printable
import DeskCalc.Text.Quoted
import DeskCalc.Text.Split
import DeskCalc.Text.Utf8
import DeskCalc.Token.Basic
import DeskCalc.Token.Feed
import DeskCalc.Token.Reader
import DeskCalc.Token.Scanner
import DeskCalc.Tree.Basic
import DeskCalc.Tree.Build
import DeskCalc.Tree.Json
import DeskCalc.Tree.Literal
import DeskCalc.Tree.Printer
import DeskCalc.Typing.Check
import DeskCalc.Proofs.Outcome
import DeskCalc.Proofs.Number.Reading
import DeskCalc.Proofs.Token.Lexeme
import DeskCalc.Proofs.Token.Next
import DeskCalc.Proofs.Token.Cut
import DeskCalc.Proofs.Token.Longest
import DeskCalc.Proofs.Token.Pieces
import DeskCalc.Proofs.Scopes
import DeskCalc.Proofs.Tree.Contents
import DeskCalc.Proofs.Parse.Passing
import DeskCalc.Proofs.Parse.Grammar
import DeskCalc.Proofs.Parse.Reading
import DeskCalc.Proofs.Parse.Rules
import DeskCalc.Proofs.Parse.Acceptance
import DeskCalc.Proofs.Parse.Front
import DeskCalc.Proofs.Parse.Viable
import DeskCalc.Proofs.Parse.Source
import DeskCalc.Proofs.Tree.Relabel
import DeskCalc.Proofs.Parse.Lines
import DeskCalc.Proofs.Tree.Readable
import DeskCalc.Proofs.Tree.Reparse
import DeskCalc.Proofs.Typing.Elaboration
import DeskCalc.Proofs.Typing.Insertion
import DeskCalc.Proofs.Typing.Relabel
import DeskCalc.Proofs.Typing.Violation
import DeskCalc.Proofs.Code.Emission
import DeskCalc.Proofs.Code.Bare
import DeskCalc.Proofs.Code.Fixpoint
import DeskCalc.Proofs.Code.Walk
import DeskCalc.Proofs.Code.Relabel
import DeskCalc.Proofs.Code.History
import DeskCalc.Proofs.Code.Backend
import DeskCalc.Proofs.Code.Slots
import DeskCalc.Proofs.Renaming
import DeskCalc.Proofs.Layout
import DeskCalc.Proofs.Evaluation
import DeskCalc.Proofs.Machine.Follow
import DeskCalc.Proofs.Machine.Simulation
import DeskCalc.Proofs.Machine.Meaning
import DeskCalc.Proofs.Machine.Safety
import DeskCalc.Proofs.Dc.Words
import DeskCalc.Proofs.Dc.Command
import DeskCalc.Proofs.Dc.Calculator
import DeskCalc.Proofs.Dc.Agreement
import DeskCalc.Proofs.Dc.Course
import DeskCalc.Proofs.Dc.Discipline
import DeskCalc.Proofs.Dc.Literal
import DeskCalc.Proofs.Diagnostic.Culprit
import DeskCalc.Proofs.Extension
import DeskCalc.Proofs.Files.View
import DeskCalc.Proofs.Files.Volume
import DeskCalc.Proofs.Files.Attempt
import DeskCalc.Proofs.Machine.Effect
import DeskCalc.Proofs.Machine.Operands
import DeskCalc.Proofs.Machine.Outline
import DeskCalc.Proofs.Scoping
import DeskCalc.Proofs.Machine.Reuse
import DeskCalc.Proofs.Parse.Trail
import DeskCalc.Proofs.Tree.Unambiguous
import DeskCalc.Proofs.Number.Shortest
import DeskCalc.Proofs.Number.Decimal
import DeskCalc.Proofs.Number.Printed
import DeskCalc.Proofs.Machine.Listing
import DeskCalc.Proofs.Token.Progress
import DeskCalc.Proofs.Parse.Depth
import DeskCalc.Proofs.Code.Notes
