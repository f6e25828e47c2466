import DeskCalc.Tree.Literal

/-!
What a tree holds: its literals, each with its type, its conversions and the types that they lead to.
-/

namespace DeskCalc

namespace Expr

/-- The literals of an expression, from the left to the right. -/
def literals : Expr → List (String × Ty)
  | number text ty _ => [(text, ty)]
  | symbol .. => []
  | binary left _ right _ => left.literals ++ right.literals
  | convert inner _ _ => inner.literals

def conversionTargets : Expr → List Ty
  | number .. => []
  | symbol .. => []
  | binary left _ right _ => left.conversionTargets ++ right.conversionTargets
  | convert inner target _ => target :: inner.conversionTargets

/-- Every conversion of the expression leads to `float`. -/
def OnlyWidens (e : Expr) : Prop := ∀ t ∈ e.conversionTargets, t = .float

theorem onlyWidens_binary {left right : Expr} {operator : Operator} {line : Nat} :
    (binary left operator right line).OnlyWidens ↔ left.OnlyWidens ∧ right.OnlyWidens := by
  simp only [OnlyWidens, conversionTargets, List.mem_append, or_imp, forall_and]

theorem onlyWidens_convert {inner : Expr} {target : Ty} {line : Nat} :
    (convert inner target line).OnlyWidens ↔ target = .float ∧ inner.OnlyWidens := by
  simp only [OnlyWidens, conversionTargets, List.mem_cons, forall_eq_or_imp]

end Expr

namespace Stmt

def literals (s : Stmt) : List (String × Ty) :=
  (s.value?.map Expr.literals).getD []

def OnlyWidens (s : Stmt) : Prop := ∀ e ∈ s.value?, e.OnlyWidens

/-- A statement has no conversions if its expression has none. -/
theorem conversions_eq_zero_iff {s : Stmt} :
    s.conversions = 0 ↔ ∀ e ∈ s.value?, e.conversions = 0 := by
  unfold conversions
  cases s.value? <;> simp

end Stmt

namespace Program

def literals (p : Program) : List (String × Ty) :=
  p.body.flatMap Stmt.literals

/-- A program has no conversions if none of its statements has any. -/
theorem conversions_eq_zero_iff {p : Program} :
    p.conversions = 0 ↔ ∀ s ∈ p.body, s.conversions = 0 := by
  have hsum : ∀ (body : List Stmt) (n : Nat),
      body.foldl (fun n s => n + s.conversions) n = 0 ↔ n = 0 ∧ ∀ s ∈ body, s.conversions = 0 := by
    intro body
    induction body with
    | nil => simp
    | cons s body ih =>
      intro n
      rw [List.foldl_cons, ih, List.forall_mem_cons, Nat.add_eq_zero_iff, and_assoc]
  rw [conversions, hsum, eq_self_iff_true, true_and]

end Program

end DeskCalc
