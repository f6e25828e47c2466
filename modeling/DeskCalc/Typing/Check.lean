import DeskCalc.Scopes

/-!
Type checking. The type of an expression is found from its parts; where a number of type `int` meets
the type `float` the checker puts a conversion around it, so that afterwards both operands of every
operation and both sides of every assignment agree. A tree that is refused keeps the conversions
that were made before the refusal.
-/

namespace DeskCalc

/-- A value of type `received` may be put where one of type `expected` stands: types agree, or an
integer is widened. -/
def Ty.accepts (expected received : Ty) : Bool :=
  expected = received || (expected = .float && received = .int)

/-- The result of checking: the tree with the conversions made in it, how many they are, and what
was found or what is wrong. -/
structure Checked (α τ : Type) where
  tree : α
  inserted : Nat
  verdict : Except Diagnostic τ

/-! ### Expressions -/

/-- How many conversions bring an operand of the type to `float`. -/
def Ty.widenings : Ty → Nat
  | .int => 1
  | .float => 0

namespace Expr

/-- The expression of the given type as an operand of type `float`. -/
def widened (e : Expr) : Ty → Expr
  | .int => e.wrap .float
  | .float => e

/-- The type of an expression, from left to right. An operation on two integers is an integer, any
other operation widens its operands to `float`; a conversion has the type it converts to. -/
def check (scopes : Scopes) (file : String) : Expr → Checked Expr Ty
  | number text ty line => ⟨number text ty line, 0, .ok ty⟩
  | symbol name line => ⟨symbol name line, 0, (scopes.fetch name line file).map Symbol.ty⟩
  | binary left operator right line =>
    let l := left.check scopes file
    match l.verdict with
    | .error d => ⟨binary l.tree operator right line, l.inserted, .error d⟩
    | .ok lt =>
      let r := right.check scopes file
      match r.verdict with
      | .error d => ⟨binary l.tree operator r.tree line, l.inserted + r.inserted, .error d⟩
      | .ok rt =>
        if lt = .int ∧ rt = .int then
          ⟨binary l.tree operator r.tree line, l.inserted + r.inserted, .ok .int⟩
        else
          ⟨binary (l.tree.widened lt) operator (r.tree.widened rt) line,
            l.inserted + r.inserted + lt.widenings + rt.widenings, .ok .float⟩
  | convert inner target line =>
    let i := inner.check scopes file
    ⟨convert i.tree target line, i.inserted, i.verdict.map fun _ => target⟩

/-- An expression as the value of a variable of type `expected`. -/
def checkValue (scopes : Scopes) (file : String) (target : Identifier) (expected : Ty) (e : Expr) :
    Checked Expr Unit :=
  let v := e.check scopes file
  match v.verdict with
  | .error d => ⟨v.tree, v.inserted, .error d⟩
  | .ok received =>
    if received = expected then ⟨v.tree, v.inserted, .ok ()⟩
    else if expected.accepts received then ⟨v.tree.wrap expected, v.inserted + 1, .ok ()⟩
    else
      ⟨v.tree, v.inserted,
        .error ⟨.narrowingConversion target.name expected.name received.name, target.line, file⟩⟩

end Expr

/-! ### Statements -/

/-- A type checker: the names in scope, the file that diagnostics name, and how many conversions
it has made. -/
structure Checker where
  scopes : Scopes
  file : String
  conversions : Nat

namespace Checker

def start (file : Option String) : Checker :=
  ⟨.start, file.getD defaultFile, 0⟩

def expr (c : Checker) (e : Expr) : Checked Expr Ty × Checker :=
  let r := e.check c.scopes c.file
  (r, { c with conversions := c.conversions + r.inserted })

def value (c : Checker) (target : Identifier) (expected : Ty) (e : Expr) :
    Checked Expr Unit × Checker :=
  let r := e.checkValue c.scopes c.file target expected
  (r, { c with conversions := c.conversions + r.inserted })

/-- Checks a statement. A declaration declares its name before its value is looked at. -/
def statement (c : Checker) (s : Stmt) : Checked Stmt Unit × Checker :=
  match s with
  | .declaration target ty value line =>
    match c.scopes.declare target.name ⟨ty, none⟩ target.line c.file with
    | .error d => (⟨s, 0, .error d⟩, c)
    | .ok scopes =>
      let c := { c with scopes }
      match value with
      | none => (⟨s, 0, .ok ()⟩, c)
      | some e =>
        let (r, c) := c.value target ty e
        (⟨.declaration target ty (some r.tree) line, r.inserted, r.verdict⟩, c)
  | .assignment target e line =>
    match c.scopes.fetch target.name target.line c.file with
    | .error d => (⟨s, 0, .error d⟩, c)
    | .ok symbol =>
      let (r, c) := c.value target symbol.ty e
      (⟨.assignment target r.tree line, r.inserted, r.verdict⟩, c)
  | .print target _ =>
    (⟨s, 0, (c.scopes.fetch target.name target.line c.file).map fun _ => ()⟩, c)

/-- Checks statements in order, up to the first that is refused. -/
def statements (c : Checker) : List Stmt → Checked (List Stmt) Unit × Checker
  | [] => (⟨[], 0, .ok ()⟩, c)
  | s :: body =>
    let (r, c) := c.statement s
    match r.verdict with
    | .error d => (⟨r.tree :: body, r.inserted, .error d⟩, c)
    | .ok () =>
      let (rs, c) := c.statements body
      (⟨r.tree :: rs.tree, r.inserted + rs.inserted, rs.verdict⟩, c)

def program (c : Checker) (p : Program) : Checked Program Unit × Checker :=
  let (r, c) := c.statements p.body
  (⟨{ p with body := r.tree }, r.inserted, r.verdict⟩, c)

end Checker

def Program.check (p : Program) (file : Option String) : Checked Program Unit :=
  ((Checker.start file).program p).1

end DeskCalc
