import DeskCalc.Proofs.Parse.Rules

/-!
Reading as procedures that call each other. The rules are written down once more, with no bound on what is
left to read (`Procedure.body`), and are run with a limit on how deep calls nest: a run that would go deeper
is cut short and has no result of the parser (`Procedure.run`). A run keeps a record of the statements that
were called for and given. What is left to show of a procedure is that its run follows its rule (`Follows`).
-/

namespace DeskCalc

open Token (Kind)

namespace Parse

/-! ### Procedures -/

/-- What is called while a program is read, by the kind of value that it gives. -/
inductive Procedure : Type → Type
  | expr : Procedure Expr
  | term : Procedure Expr
  | atom : Procedure Expr
  | tail (level : Level) (left : Expr) : Procedure Expr
  | initialValue : Procedure (Option Expr)
  | rule (rule : Rule) : Procedure Stmt
  | statement : Procedure Stmt
  | statements : Procedure (List Stmt)

/-- A cursor, and the statements that calls have given on the way to it. -/
structure Journal where
  cursor : Cursor
  made : List Stmt

/-- Reading that may be cut short: it ends with a value, with a diagnostic, or without either. -/
abbrev Limited := EStateM (Option Diagnostic) Journal

variable {α β : Type}

/-- A result of reading with a record of statements. -/
def recorded (made : List Stmt) :
    EStateM.Result Diagnostic Cursor α → EStateM.Result (Option Diagnostic) Journal α :=
  translated id some fun c => ⟨c, made⟩

/-- Reads by a rule that calls no procedure. -/
def perform (x : Parse α) : Limited α := fun j => recorded j.made (x j.cursor)

/-- The cursor that reading has come to. -/
def here : Limited Cursor := perform get

namespace Procedure

def parse : {α : Type} → Procedure α → Parse α
  | _, .expr => Parse.expr
  | _, .term => Parse.term
  | _, .atom => Parse.atom
  | _, .tail level left => chainTail level left
  | _, .initialValue => Parse.initialValue
  | _, .rule r => r.parse
  | _, .statement => Parse.statement
  | _, .statements => Parse.statements

def operand : Level → Procedure Expr
  | .sum => .term
  | .product => .atom

/-- What a procedure does, given what the procedures do that it calls. -/
def body (call : {β : Type} → Procedure β → Limited β) : {α : Type} → Procedure α → Limited α
  | _, .expr => do
    let left ← call .term
    call (.tail .sum left)
  | _, .term => do
    let left ← call .atom
    call (.tail .product left)
  | _, .atom => do
    match (← here).current.kind with
    | .integer => perform (number .integer .int)
    | .decimal => perform (number .decimal .float)
    | .identifier => perform symbol
    | .openParen =>
      let _ ← perform (expect .openParen)
      let e ← call .expr
      let _ ← perform (expect .closeParen)
      return e
    | _ => perform (unexpected "expected a number, variable or `(`")
  | _, .tail level left => do
    let kind := (← here).current.kind
    match level.operator? kind with
    | none => return left
    | some operator =>
      let token ← perform (expect kind)
      let right ← call (operand level)
      call (.tail level (.binary left operator right token.line))
  | _, .initialValue => do
    if (← here).current.kind = .assign then
      let _ ← perform (expect .assign)
      let value ← call .expr
      return some value
    else return none
  | _, .rule .declaration => do
    let ty ← perform typeName
    let target ← perform identifier
    let value ← call .initialValue
    let _ ← perform (expect .semicolon)
    return .declaration target ty value target.line
  | _, .rule .print => do
    let _ ← perform (expect .print)
    let target ← perform identifier
    let _ ← perform (expect .semicolon)
    return .print target target.line
  | _, .rule .assignment => do
    let target ← perform identifier
    let _ ← perform (expect .assign)
    let value ← call .expr
    let _ ← perform (expect .semicolon)
    return .assignment target value target.line
  | _, .statement => do
    let c ← here
    match c.rules.lookup c.current.kind with
    | some r => call (.rule r)
    | none => perform (unexpected "expected a declaration, assignment or print statement")
  | _, .statements => do
    if (← here).current.kind = .endOfInput then return []
    else
      let s ← call .statement
      let more ← call .statements
      return s :: more

/-- What a call that has given a value adds to the record. -/
def entry : {α : Type} → Procedure α → α → List Stmt
  | _, .statement, s => [s]
  | _, _, _ => []

/-- Runs a procedure where calls nest at most so deep, and records the statements that are given. -/
def run : Nat → {α : Type} → Procedure α → Limited α
  | 0, _, _ => throw none
  | n + 1, _, p => do
    let a ← p.body (run n)
    modify fun j => { j with made := j.made ++ p.entry a }
    return a

end Procedure

/-- Runs a whole program, the statements of which nest at most so deep. -/
def runProgram (n : Nat) : Limited Program := do
  let line := (← here).current.line
  let body ← Procedure.statements.run n
  let _ ← perform (expect .endOfInput)
  return ⟨body, line⟩

/-! ### Tokens passed -/

/-- Where the rule gives a value it has passed tokens, none of which is the end of input. -/
def Moves (x : Parse α) : Prop := ∀ c a c', x c = .ok a c' → ∃ ts, Passes c ts c'

theorem moves_pure (a : α) : Moves (pure a) := by
  intro c _ _ h
  cases h
  exact ⟨[], .nil⟩

theorem moves_ofExcept (r : Except Diagnostic α) : Moves (ofExcept r) := by
  intro c a c' h
  cases r with
  | error d => cases h
  | ok b => exact moves_pure b c a c' h

theorem moves_unexpected (message : String) : Moves (unexpected (α := α) message) := by
  intro c a c' h
  cases h

theorem moves_expect {kind : Kind} (hne : kind ≠ .endOfInput) : Moves (expect kind) := by
  intro c t c' h
  obtain ⟨rfl, hk⟩ := expect_eq_ok h
  rw [expect, if_pos hk] at h
  exact ⟨[c.current], .one (hk ▸ hne) h⟩

theorem Moves.bind {x : Parse α} {f : α → Parse β} (hx : Moves x) (hf : ∀ a, Moves (f a)) :
    Moves (x >>= f) := by
  intro c b c'' h
  obtain ⟨a, c', ha, hb⟩ := bind_eq_ok_iff.mp h
  obtain ⟨ts, hts⟩ := hx c a c' ha
  obtain ⟨us, hus⟩ := hf a c' b c'' hb
  exact ⟨ts ++ us, hts.append hus⟩

theorem moves_number {kind : Kind} (hne : kind ≠ .endOfInput) (ty : Ty) : Moves (number kind ty) :=
  (moves_expect hne).bind fun _ => moves_ofExcept _

theorem moves_symbol : Moves symbol :=
  (moves_expect (by decide)).bind fun _ => moves_ofExcept _

theorem moves_identifier : Moves identifier :=
  (moves_expect (by decide)).bind fun _ => moves_ofExcept _

theorem moves_typeName : Moves typeName := by
  have hkeyword : ∀ ty, Moves (typeKeyword ty) := by
    intro ty
    have hne : Grammar.keyword ty ≠ .endOfInput := by cases ty <;> decide
    exact (moves_expect hne).bind fun _ => moves_pure _
  intro c ty c' h
  cases hk : c.current.kind
  case intType =>
    rw [typeName_of_keyword .int hk] at h
    exact hkeyword .int c ty c' h
  case floatType =>
    rw [typeName_of_keyword .float hk] at h
    exact hkeyword .float c ty c' h
  all_goals
    simp only [typeName_eq, hk] at h
    exact moves_unexpected _ c ty c' h

/-- Where the rule gives a value it has passed at least one token and not the end of input. -/
def Advances (x : Parse α) (c : Cursor) : Prop :=
  ∀ a c', x c = .ok a c' → ∃ ts, ts ≠ [] ∧ (∀ t ∈ ts, t.kind ≠ .endOfInput) ∧
    c'.passed = ts.reverse ++ c.passed

/-! ### Runs beside rules -/

/-- At the cursor the run is not cut short: its result is the result of the rule, and if that is a value it
has recorded what `Q` says. -/
def Agrees (x : Limited α) (y : Parse α) (Q : α → List Stmt → Prop) (c : Cursor) : Prop :=
  ∀ made, ∃ more, x ⟨c, made⟩ = recorded (made ++ more) (y c) ∧ ∀ a c', y c = .ok a c' → Q a more

/-- The run agrees with the rule, which has passed tokens other than the end of input if it gives a value. -/
structure Follows (x : Limited α) (y : Parse α) (Q : α → List Stmt → Prop) (c : Cursor) : Prop where
  agrees : Agrees x y Q c
  passes : ∀ a c', y c = .ok a c' → ∃ ts, Passes c ts c'

/-- Nothing is recorded. -/
def Quiet : α → List Stmt → Prop := fun _ more => more = []

section

variable {x : Limited α} {y y' : Parse α} {k : α → Limited β} {l : α → Parse β}
  {Q : α → List Stmt → Prop} {R : β → List Stmt → Prop} {c : Cursor}

theorem agrees_perform : Agrees (perform y) y Quiet c := by
  intro made
  refine ⟨[], ?_, fun _ _ _ => rfl⟩
  rw [List.append_nil]
  rfl

theorem agrees_pure {a : α} (h : Q a []) : Agrees (pure a) (pure a) Q c := by
  intro made
  refine ⟨[], ?_, ?_⟩
  · rw [List.append_nil]
    rfl
  · intro b c' hb
    cases hb
    exact h

theorem Agrees.bind (hx : Agrees x y Q c)
    (hk : ∀ a c' more, y c = .ok a c' → Q a more →
      Agrees (k a) (l a) (fun b us => R b (more ++ us)) c') :
    Agrees (x >>= k) (y >>= l) R c := by
  intro made
  obtain ⟨more, hrun, hmore⟩ := hx made
  show ∃ us, EStateM.bind x k ⟨c, made⟩ = recorded (made ++ us) (EStateM.bind y l c) ∧
    ∀ b c'', EStateM.bind y l c = .ok b c'' → R b us
  unfold EStateM.bind
  rw [hrun]
  cases hy : y c with
  | error d c' =>
    refine ⟨more, rfl, ?_⟩
    intro b c'' hb
    cases hb
  | ok a c' =>
    obtain ⟨us, hrest, hus⟩ := hk a c' more hy (hmore a c' hy) (made ++ more)
    refine ⟨more ++ us, ?_, hus⟩
    rw [← List.append_assoc]
    exact hrest

theorem Follows.of_eq (h : Follows x y' Q c) (hy : y c = y' c) : Follows x y Q c := by
  obtain ⟨hagrees, hpasses⟩ := h
  refine ⟨?_, ?_⟩
  · rw [Agrees, hy]
    exact hagrees
  · rw [hy]
    exact hpasses

/-- A run that looks at the cursor first goes on with it. -/
theorem Follows.ofHere {f : Cursor → Limited α} (h : Follows (f c) y Q c) :
    Follows (here >>= f) y Q c :=
  ⟨h.agrees, h.passes⟩

theorem follows_perform (hy : Moves y) : Follows (perform y) y Quiet c :=
  ⟨agrees_perform, hy c⟩

theorem follows_pure {a : α} (h : Q a []) : Follows (pure a) (pure a) Q c :=
  ⟨agrees_pure h, moves_pure a c⟩

theorem Follows.bind (hx : Follows x y Q c)
    (hk : ∀ a c' more, y c = .ok a c' → Q a more →
      Follows (k a) (l a) (fun b us => R b (more ++ us)) c') :
    Follows (x >>= k) (y >>= l) R c := by
  refine ⟨hx.agrees.bind fun a c' more hy hmore => (hk a c' more hy hmore).agrees, ?_⟩
  intro b c'' hb
  obtain ⟨a, c', hy, hl⟩ := bind_eq_ok_iff.mp hb
  -- whatever was recorded before, the run records the same
  obtain ⟨more, -, hmore⟩ := hx.agrees []
  obtain ⟨ts, hts⟩ := hx.passes a c' hy
  obtain ⟨us, hus⟩ := (hk a c' more hy (hmore a c' hy)).passes b c'' hl
  exact ⟨ts ++ us, hts.append hus⟩

/-- What comes behind a run that records nothing. -/
theorem Follows.andThen (hx : Follows x y Quiet c)
    (hk : ∀ a c', y c = .ok a c' → Follows (k a) (l a) R c') :
    Follows (x >>= k) (y >>= l) R c := by
  apply hx.bind
  rintro a c' _ hy rfl
  exact hk a c' hy

/-- A run of which the result is recorded. -/
theorem Follows.record {entry : α → List Stmt} {Q' : α → List Stmt → Prop} (hx : Follows x y Q c)
    (hQ : ∀ a more, Q a more → Q' a (more ++ entry a)) :
    Follows (do
      let a ← x
      modify fun j => { j with made := j.made ++ entry a }
      return a) y Q' c := by
  have hboth : Follows (do
      let a ← x
      modify fun j => { j with made := j.made ++ entry a }
      return a) (y >>= pure) Q' c := by
    apply hx.bind
    intro a c' more _ hmore
    refine ⟨fun made => ⟨entry a, rfl, ?_⟩, moves_pure a c'⟩
    intro b c'' hb
    cases hb
    exact hQ a more hmore
  rw [bind_pure] at hboth
  exact hboth

end

end Parse

end DeskCalc
