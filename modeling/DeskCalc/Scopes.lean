import DeskCalc.Diagnostic.Basic

/-!
Names in scope. Scopes lie inside each other; a name is declared in the innermost one, which may have
it only once, and is looked up from the innermost outwards. The outermost scope is never left.
-/

namespace DeskCalc

/-- What a name stands for: a variable of a type, with the slot that holds it once it has one. -/
structure Symbol where
  ty : Ty
  slot? : Option Nat
  deriving Repr, DecidableEq

/-- The names declared in one scope, the latest first. -/
abbrev Scope := List (String × Symbol)

/-- The innermost scope and those around it, from the inside outwards. -/
structure Scopes where
  inner : Scope
  outer : List Scope
  deriving Repr, DecidableEq

namespace Scopes

def start : Scopes :=
  ⟨[], []⟩

def enter (s : Scopes) : Scopes :=
  ⟨[], s.inner :: s.outer⟩

/-- Leaves the innermost scope, unless it is the only one. -/
def exit? (s : Scopes) : Option Scopes :=
  match s.outer with
  | [] => none
  | scope :: outer => some ⟨scope, outer⟩

def depth (s : Scopes) : Nat :=
  s.outer.length + 1

/-- What the name stands for in the innermost scope that has it. -/
def lookup (s : Scopes) (name : String) : Option Symbol :=
  (s.inner :: s.outer).findSome? (·.lookup name)

/-- The scopes with a name added to the innermost one, which must not have it yet. -/
def declare (s : Scopes) (name : String) (symbol : Symbol) (line : Nat) (file : String) :
    Except Diagnostic Scopes :=
  match s.inner.lookup name with
  | some _ => .error ⟨.variableAlreadyDeclared name, line, file⟩
  | none => .ok { s with inner := (name, symbol) :: s.inner }

/-- What the name stands for; it has to stand for something. -/
def fetch (s : Scopes) (name : String) (line : Nat) (file : String) : Except Diagnostic Symbol :=
  match s.lookup name with
  | some symbol => .ok symbol
  | none => .error ⟨.variableNotDeclared name, line, file⟩

theorem depth_enter (s : Scopes) : s.enter.depth = s.depth + 1 := rfl

theorem depth_pos (s : Scopes) : 0 < s.depth := Nat.succ_pos _

end Scopes

end DeskCalc
