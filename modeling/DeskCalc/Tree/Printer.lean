import DeskCalc.Tree.Basic

/-!
The text of a tree, in the form of source text: one statement to a line, every operation between
parentheses, and a conversion as its type between parentheses before the converted expression.
-/

namespace DeskCalc

def Expr.written : Expr → String
  | .number text _ _ => text
  | .symbol name _ => name
  | .binary left operator right _ =>
    "(" ++ left.written ++ " " ++ operator.sign ++ " " ++ right.written ++ ")"
  | .convert inner target _ => "(" ++ target.name ++ ") " ++ inner.written

def Stmt.written : Stmt → String
  | .declaration target ty none _ => ty.name ++ " " ++ target.name ++ ";"
  | .declaration target ty (some value) _ =>
    ty.name ++ " " ++ target.name ++ " = " ++ value.written ++ ";"
  | .assignment target value _ => target.name ++ " = " ++ value.written ++ ";"
  | .print target _ => "print " ++ target.name ++ ";"

/-- The text of a program: its statements, each on a line of its own. -/
def Program.written (p : Program) : String :=
  String.join (p.body.map fun s => s.written ++ "\n")

end DeskCalc
