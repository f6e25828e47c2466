import DeskCalc.Diagnostic.Basic
import DeskCalc.Tree.Literal

/-!
Building trees by hand. Names must not be empty and the text of a number must stand for a number of
its type; a refusal names no source file, because such a tree has none.
-/

namespace DeskCalc

/-- The place of the file in diagnostics about trees. -/
def treeFile : String := "<ast>"

def Identifier.build (name : String) (line : Nat) : Except Diagnostic Identifier :=
  if name.isEmpty then .error ⟨.missingNode "Identifier" "name", line, treeFile⟩
  else .ok ⟨name, line⟩

namespace Expr

def buildNumber (text : String) (ty : Ty) (line : Nat) : Except Diagnostic Expr :=
  if text = "" ∨ text = "-" then .error ⟨.missingNode "NumberExpr" "value", line, treeFile⟩
  else if ty.admits text then .ok (number text ty line)
  else .error ⟨.invalidLiteral text ty.name, line, treeFile⟩

def buildSymbol (name : String) (line : Nat) : Except Diagnostic Expr :=
  if name.isEmpty then .error ⟨.missingNode "SymbolExpr" "name", line, treeFile⟩
  else .ok (symbol name line)

/-- The expression built again from its parts, from the left to the right. -/
def rebuild : Expr → Except Diagnostic Expr
  | number text ty line => buildNumber text ty line
  | symbol name line => buildSymbol name line
  | binary left operator right line => do
    let left ← left.rebuild
    let right ← right.rebuild
    return binary left operator right line
  | convert inner target line => do
    let inner ← inner.rebuild
    return convert inner target line

end Expr

/-- The statement built again from its parts, the identifier before the expression. -/
def Stmt.rebuild : Stmt → Except Diagnostic Stmt
  | .declaration target ty value line => do
    let target ← Identifier.build target.name target.line
    let value ← value.mapM Expr.rebuild
    return .declaration target ty value line
  | .assignment target value line => do
    let target ← Identifier.build target.name target.line
    let value ← value.rebuild
    return .assignment target value line
  | .print target line => do
    let target ← Identifier.build target.name target.line
    return .print target line

/-- The program built again from its statements in order: what is wrong with the first part that
cannot be built, or the same program. -/
def Program.rebuild (p : Program) : Except Diagnostic Program := do
  let body ← p.body.mapM Stmt.rebuild
  return { p with body }

end DeskCalc
