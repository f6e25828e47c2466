import DeskCalc.Text.Json
import DeskCalc.Tree.Basic

/-!
A tree as a JSON value: an object for each node, its fields in a fixed order, and an object of one
field that names the kind of a statement or an expression.
-/

namespace DeskCalc

open Text (Json)

def Ty.toJson : Ty → Json
  | .int => .text "Int"
  | .float => .text "Float"

def Operator.toJson : Operator → Json
  | .add => .text "Add"
  | .sub => .text "Sub"
  | .mul => .text "Mul"
  | .div => .text "Div"

/-- A node as JSON: the name of its kind before its fields. -/
def nodeJson (kind : String) (fields : List (String × Json)) : Json :=
  .object [(kind, .object fields)]

def Expr.toJson : Expr → Json
  | .number text ty line =>
    nodeJson "Number" [("value", .text text), ("ty", ty.toJson), ("line", .number line)]
  | .symbol name line => nodeJson "Symbol" [("value", .text name), ("line", .number line)]
  | .binary left operator right line =>
    nodeJson "Binary" [("left", left.toJson), ("operator", operator.toJson),
      ("right", right.toJson), ("line", .number line)]
  | .convert inner target line =>
    nodeJson "Convert" [("inner", inner.toJson), ("target", target.toJson), ("line", .number line)]

def Identifier.toJson (i : Identifier) : Json :=
  .object [("name", .text i.name), ("line", .number i.line)]

def Stmt.toJson : Stmt → Json
  | .declaration target ty value line =>
    nodeJson "VarDecl" [("identifier", target.toJson), ("var_type", ty.toJson),
      ("assigned_value", (value.map Expr.toJson).getD .null), ("line", .number line)]
  | .assignment target value line =>
    nodeJson "Assignment" [("assignee", target.toJson), ("value", value.toJson),
      ("line", .number line)]
  | .print target line =>
    nodeJson "Print" [("identifier", target.toJson), ("line", .number line)]

def Program.toJson (p : Program) : Json :=
  .object [("body", .array (p.body.map Stmt.toJson)), ("line", .number p.line)]

end DeskCalc
