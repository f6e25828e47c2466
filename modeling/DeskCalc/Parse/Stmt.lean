import DeskCalc.Parse.Expr

/-!
Reading statements and whole programs. A statement is read by the rule that the table of the cursor
has for its first token; each rule passes at least that token, so a program is read to its end
whatever the table says.
-/

namespace DeskCalc

namespace Parse

/-! ### The parts of statements -/

def typeName : Parse Ty := do
  match (← get).current.kind with
  | .intType => let _ ← expect .intType; return .int
  | .floatType => let _ ← expect .floatType; return .float
  | _ => unexpected "expected `int` or `float`"

/-- The name that a statement is about. -/
def identifier : Parse Identifier := do
  let token ← expect .identifier
  ofExcept (Identifier.build token.text token.line)

/-- The first value in a declaration: an equals sign and an expression, or nothing. -/
def initialValue : Parse (Option Expr) := do
  if (← get).current.kind = .assign then
    let _ ← expect .assign
    let value ← expr
    return some value
  else return none

/-! ### Statements -/

def declaration : Parse Stmt := do
  let ty ← typeName
  let target ← identifier
  let value ← initialValue
  let _ ← expect .semicolon
  return .declaration target ty value target.line

def print : Parse Stmt := do
  let _ ← expect .print
  let target ← identifier
  let _ ← expect .semicolon
  return .print target target.line

def assignment : Parse Stmt := do
  let target ← identifier
  let _ ← expect .assign
  let value ← expr
  let _ ← expect .semicolon
  return .assignment target value target.line

end Parse

def Rule.parse : Rule → Parse Stmt
  | .declaration => Parse.declaration
  | .print => Parse.print
  | .assignment => Parse.assignment

namespace Parse

/-- A statement, read by the rule for its first token. -/
def statement : Parse Stmt := do
  let c ← get
  match c.rules.lookup c.current.kind with
  | some rule => rule.parse
  | none => unexpected "expected a declaration, assignment or print statement"

/-! ### Progress -/

/-- A rule that looks at the cursor first and then shrinks it. -/
theorem Shrinking.get {α : Type} {f : Cursor → Parse α} (h : ∀ c, Shrinking (f c)) :
    Shrinking (get >>= f) :=
  fun c => h c c

theorem Forward.get {α : Type} {f : Cursor → Parse α} (h : ∀ c, Forward (f c)) :
    Forward (get >>= f) :=
  fun c => h c c

theorem typeName_shrinking : Shrinking typeName := by
  refine Shrinking.get fun c => ?_
  split
  · exact (expect_shrinking (by decide)).bind fun _ => forward_pure _
  · exact (expect_shrinking (by decide)).bind fun _ => forward_pure _
  · exact unexpected_shrinking _

theorem identifier_shrinking : Shrinking identifier :=
  (expect_shrinking (by decide)).bind fun _ => ofExcept_forward _

theorem initialValue_forward : Forward initialValue := by
  refine Forward.get fun c => ?_
  split
  · exact (expect_shrinking (by decide)).forward.bind fun _ =>
      expr_shrinking.forward.bind fun _ => forward_pure _
  · exact forward_pure _

/-- The semicolon behind a statement. -/
theorem expect_semicolon_forward {s : Stmt} :
    Forward (do let _ ← expect .semicolon; return s) :=
  (expect_shrinking (by decide)).forward.bind fun _ => forward_pure _

theorem declaration_shrinking : Shrinking declaration :=
  typeName_shrinking.bind fun _ => identifier_shrinking.forward.bind fun _ =>
    initialValue_forward.bind fun _ => expect_semicolon_forward

theorem print_shrinking : Shrinking print :=
  (expect_shrinking (by decide)).bind fun _ => identifier_shrinking.forward.bind fun _ =>
    expect_semicolon_forward

theorem assignment_shrinking : Shrinking assignment :=
  identifier_shrinking.bind fun _ => (expect_shrinking (by decide)).forward.bind fun _ =>
    expr_shrinking.forward.bind fun _ => expect_semicolon_forward

theorem statement_shrinking : Shrinking statement := by
  refine Shrinking.get fun c => ?_
  split
  · rename_i rule _
    cases rule with
    | declaration => exact declaration_shrinking
    | print => exact print_shrinking
    | assignment => exact assignment_shrinking
  · exact unexpected_shrinking _

/-! ### Programs -/

/-- The statements up to the end of input. -/
def statements (c : Cursor) : EStateM.Result Diagnostic Cursor (List Stmt) :=
  if c.current.kind = .endOfInput then .ok [] c
  else match Outcome.ofShrinking statement_shrinking c with
    | ⟨.error d c', _⟩ => .error d c'
    | ⟨.ok s c', _⟩ =>
      match statements c' with
      | .error d c'' => .error d c''
      | .ok body c'' => .ok (s :: body) c''
termination_by c.weight

/-- One statement after the other up to the end of input, with the bounds left out. -/
theorem statements_eq (c : Cursor) :
    statements c = if c.current.kind = .endOfInput then .ok [] c
      else (do
        let s ← statement
        let body ← statements
        return s :: body : Parse (List Stmt)) c := by
  rw [statements]
  split
  · rfl
  · show _ = EStateM.bind statement _ c
    unfold Outcome.ofShrinking EStateM.bind
    generalize statement_shrinking c = h
    revert h
    generalize statement c = r
    intro h
    cases r with
    | error d c' => rfl
    | ok s c' =>
      show (match statements c' with
        | .error d c'' => .error d c''
        | .ok body c'' => .ok (s :: body) c'') = EStateM.bind statements _ c'
      unfold EStateM.bind
      cases statements c' <;> rfl

/-- A program: all statements up to the end of input, from the line of the first token. -/
def program : Parse Program := do
  let line := (← get).current.line
  let body ← statements
  let _ ← expect .endOfInput
  return ⟨body, line⟩

/-- An expression that goes up to the end of input. -/
def wholeExpr : Parse Expr := do
  let e ← expr
  let _ ← expect .endOfInput
  return e

/-- What a rule reads from the beginning of a source text. -/
def run {α : Type} (x : Parse α) (source : String) (file : Option String) :
    Except Diagnostic α := do
  let c ← Cursor.ofSource source file
  match x c with
  | .ok a _ => return a
  | .error d _ => throw d

end Parse

/-- The tree of a source text, or the first thing in it that cannot be read. -/
def parse (source : String) (file : Option String) : Except Diagnostic Program :=
  Parse.run Parse.program source file

end DeskCalc
