import DeskCalc.Code.Step
import DeskCalc.Scopes

/-!
From trees to steps. Every declaration is given the next slot, and slots are never given twice. No
conversions are made here: where two types should agree and do not, the tree was not type checked
and is refused. The steps that were taken before a refusal stay.
-/

namespace DeskCalc

/-! ### Expressions -/

def Scopes.resolve (s : Scopes) (name : String) (line : Nat) (file : String) :
    Except Diagnostic (Nat × Ty) :=
  match s.lookup name with
  | some ⟨ty, some slot⟩ => .ok (slot, ty)
  | _ => .error ⟨.unboundSymbol name, line, file⟩

def expectSame (context : String) (left right : Ty) (line : Nat) (file : String) :
    Except Diagnostic Unit :=
  if left = right then .ok ()
  else .error ⟨.uncheckedTypeMismatch context left.name right.name, line, file⟩

/-- Steps, and what came of taking them. -/
structure Steps (τ : Type) where
  steps : List Step
  verdict : Except Diagnostic τ

/-- The steps of an expression, operands first, and its type. -/
def Expr.generate (target : Target) (scopes : Scopes) (file : String) : Expr → Steps Ty
  | number text ty line =>
    if target.holds text ty then ⟨[.literal text ty], .ok ty⟩
    else ⟨[], .error ⟨.invalidLiteral text ty.name, line, file⟩⟩
  | symbol name line =>
    match scopes.resolve name line file with
    | .error d => ⟨[], .error d⟩
    | .ok (slot, ty) => ⟨[.load slot ty], .ok ty⟩
  | binary left operator right line =>
    let l := left.generate target scopes file
    match l.verdict with
    | .error d => ⟨l.steps, .error d⟩
    | .ok lt =>
      let r := right.generate target scopes file
      match r.verdict with
      | .error d => ⟨l.steps ++ r.steps, .error d⟩
      | .ok rt =>
        match expectSame ("operands of `" ++ operator.sign ++ "`") lt rt line file with
        | .error d => ⟨l.steps ++ r.steps, .error d⟩
        | .ok () => ⟨l.steps ++ r.steps ++ [.binary operator lt], .ok lt⟩
  | convert inner ty _ =>
    let i := inner.generate target scopes file
    match i.verdict with
    | .error d => ⟨i.steps, .error d⟩
    | .ok received => ⟨i.steps ++ [.convert received ty], .ok ty⟩

/-! ### Statements -/

/-- A code generator: the target, the names in scope with their slots, how many slots were given,
the steps so far, and the file that diagnostics name. The number of slots has no bound here; a counter of
32 bits holds the same for fewer than `2 ^ 32` declarations, and with so many it starts again at zero. -/
structure Generator where
  target : Target
  file : String
  scopes : Scopes
  slotsUsed : Nat
  steps : List Step

/-- Generating code gives a value or a diagnostic, and the generator afterwards in either case. -/
abbrev Generate := EStateM Diagnostic Generator

def Generator.start (target : Target) (file : Option String) : Generator :=
  ⟨target, file.getD defaultFile, .start, 0, []⟩

namespace Generate

def emit (step : Step) : Generate Unit :=
  modify fun g => { g with steps := g.steps ++ [step] }

/-- Declares a variable in the next slot. -/
def allocate (target : Identifier) (ty : Ty) : Generate Nat := fun g =>
  match g.scopes.declare target.name ⟨ty, some g.slotsUsed⟩ target.line g.file with
  | .ok scopes => .ok g.slotsUsed { g with scopes, slotsUsed := g.slotsUsed + 1 }
  | .error d => .error d g

def resolve (name : String) (line : Nat) : Generate (Nat × Ty) := fun g =>
  match g.scopes.resolve name line g.file with
  | .ok found => .ok found g
  | .error d => .error d g

def same (context : String) (left right : Ty) (line : Nat) : Generate Unit := fun g =>
  match expectSame context left right line g.file with
  | .ok () => .ok () g
  | .error d => .error d g

def expression (e : Expr) : Generate Ty := fun g =>
  let r := e.generate g.target g.scopes g.file
  let g := { g with steps := g.steps ++ r.steps }
  match r.verdict with
  | .ok ty => .ok ty g
  | .error d => .error d g

/-- Takes the steps of a statement. The slot of a declared variable is given before its value is
looked at. -/
def statement : Stmt → Generate Unit
  | .declaration target ty none _ => do
    let _ ← allocate target ty
  | .declaration target ty (some value) line => do
    let slot ← allocate target ty
    let received ← expression value
    same "declaration" ty received line
    emit (.store slot ty)
  | .assignment target value line => do
    let (slot, ty) ← resolve target.name target.line
    let received ← expression value
    same "assignment" ty received line
    emit (.store slot ty)
  | .print target _ => do
    let (slot, ty) ← resolve target.name target.line
    emit (.print slot ty)

def statements : List Stmt → Generate Unit
  | [] => pure ()
  | s :: body => do
    statement s
    statements body

/-- Takes the steps of a program, the preamble before them. -/
def program (p : Program) : Generate Unit := do
  emit .preamble
  statements p.body

end Generate

end DeskCalc
