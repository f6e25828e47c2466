/-!
The syntax tree of the calculator language: statements that declare, assign and print variables of
two types, and expressions over numbers and variables. A conversion node marks the place where an
integer is widened; the source language has no way to write one.
-/

namespace DeskCalc

/-! ### Types and operators -/

/-- The two types of values. -/
inductive Ty where
  | int
  | float
  deriving Repr, DecidableEq

def Ty.name : Ty → String
  | .int => "int"
  | .float => "float"

inductive Operator where
  | add
  | sub
  | mul
  | div
  deriving Repr, DecidableEq

def Operator.sign : Operator → String
  | .add => "+"
  | .sub => "-"
  | .mul => "*"
  | .div => "/"

/-! ### Expressions -/

/-- Expressions. A number keeps the text it was written with. Every node has the line it came
from: an operation that of its operator. -/
inductive Expr where
  | number (text : String) (ty : Ty) (line : Nat)
  | symbol (name : String) (line : Nat)
  | binary (left : Expr) (operator : Operator) (right : Expr) (line : Nat)
  | convert (inner : Expr) (target : Ty) (line : Nat)
  deriving Repr, DecidableEq

namespace Expr

def line : Expr → Nat
  | number _ _ line => line
  | symbol _ line => line
  | binary _ _ _ line => line
  | convert _ _ line => line

/-- How many conversion nodes an expression has. -/
def conversions : Expr → Nat
  | number .. => 0
  | symbol .. => 0
  | binary left _ right _ => left.conversions + right.conversions
  | convert inner _ _ => 1 + inner.conversions

/-- The expression under a conversion to `target`, on the same line. -/
def wrap (e : Expr) (target : Ty) : Expr :=
  convert e target e.line

end Expr

/-! ### Statements and programs -/

/-- The name that a statement declares, assigns or prints. -/
structure Identifier where
  name : String
  line : Nat
  deriving Repr, DecidableEq

/-- Statements: a declaration with or without a first value, an assignment, and printing. -/
inductive Stmt where
  | declaration (target : Identifier) (ty : Ty) (value : Option Expr) (line : Nat)
  | assignment (target : Identifier) (value : Expr) (line : Nat)
  | print (target : Identifier) (line : Nat)
  deriving Repr, DecidableEq

namespace Stmt

def line : Stmt → Nat
  | declaration _ _ _ line => line
  | assignment _ _ line => line
  | print _ line => line

def target : Stmt → Identifier
  | declaration target _ _ _ => target
  | assignment target _ _ => target
  | print target _ => target

def value? : Stmt → Option Expr
  | declaration _ _ value _ => value
  | assignment _ value _ => some value
  | print _ _ => none

def mapValue (f : Expr → Expr) : Stmt → Stmt
  | declaration target ty value line => declaration target ty (value.map f) line
  | assignment target value line => assignment target (f value) line
  | print target line => print target line

def conversions (s : Stmt) : Nat :=
  (s.value?.map Expr.conversions).getD 0

end Stmt

/-- A program: its statements in order, and the line it begins on. -/
structure Program where
  body : List Stmt
  line : Nat
  deriving Repr, DecidableEq

def Program.conversions (p : Program) : Nat :=
  p.body.foldl (fun n s => n + s.conversions) 0

end DeskCalc
