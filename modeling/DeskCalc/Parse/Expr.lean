import DeskCalc.Parse.Cursor

/-!
Reading expressions. A sum is a chain of products and a product a chain of factors, each chain
grouped to the left; a factor is a number, a variable, or a sum between parentheses. The recursion
carries the bound on what is left to read along with every result.
-/

namespace DeskCalc

open Token (Kind)

/-- The two levels of operators; products bind tighter. -/
inductive Level where
  | sum
  | product
  deriving Repr, DecidableEq

/-- The operation that a kind of token stands for on a level. -/
def Level.operator? : Level → Kind → Option Operator
  | .sum, .plus => some .add
  | .sum, .dash => some .sub
  | .product, .star => some .mul
  | .product, .slash => some .div
  | _, _ => none

/-- How far the operands of a level are from a single token. -/
def Level.height : Level → Nat
  | .sum => 4
  | .product => 2

theorem Level.height_le (level : Level) : level.height ≤ 4 := by
  cases level <;> decide

theorem Level.operator?_endOfInput (level : Level) : level.operator? .endOfInput = none := by
  cases level <;> rfl

namespace Parse

/-! ### Single tokens -/

/-- A number: a token of the kind, whose text stands for a number of the type. -/
def number (kind : Kind) (ty : Ty) : Parse Expr := do
  let token ← expect kind
  ofExcept (Expr.buildNumber token.text ty token.line)

def symbol : Parse Expr := do
  let token ← expect .identifier
  ofExcept (Expr.buildSymbol token.text token.line)

theorem number_shrinking {kind : Kind} (h : kind ≠ .endOfInput) (ty : Ty) :
    Shrinking (number kind ty) :=
  (expect_shrinking h).bind fun _ => ofExcept_forward _

theorem integer_shrinking : Shrinking (number .integer .int) :=
  number_shrinking (by decide) .int

theorem decimal_shrinking : Shrinking (number .decimal .float) :=
  number_shrinking (by decide) .float

theorem symbol_shrinking : Shrinking symbol :=
  (expect_shrinking (by decide)).bind fun _ => ofExcept_forward _

/-! ### Results with their bounds -/

/-- A result together with the bound on what it leaves to read. -/
structure Outcome (α : Type) (n : Nat) where
  result : EStateM.Result Diagnostic Cursor α
  within : Within n result

namespace Outcome

variable {α β : Type} {m n : Nat}

/-- The same result with a larger bound. -/
def mono (x : Outcome α m) (h : m ≤ n) : Outcome α n :=
  ⟨x.result, x.within.mono h⟩

theorem mono_result (x : Outcome α m) (h : m ≤ n) : (x.mono h).result = x.result := rfl

/-- Goes on with what was read, at a cursor that is known to have moved. -/
def andThen (x : Outcome α n) (f : α → (c : Cursor) → c.weight < n → Outcome β n) : Outcome β n :=
  match x with
  | ⟨.ok a c, h⟩ => f a c h
  | ⟨.error d c, h⟩ => ⟨.error d c, h⟩

theorem andThen_result {x : Outcome α n} {f : α → (c : Cursor) → c.weight < n → Outcome β n}
    {p : Parse α} {g : α → Parse β} {c : Cursor} (hx : x.result = p c)
    (hf : ∀ a c h, (f a c h).result = g a c) : (x.andThen f).result = (p >>= g) c := by
  show _ = EStateM.bind p g c
  unfold EStateM.bind
  rw [← hx]
  obtain ⟨result, h⟩ := x
  cases result with
  | ok a c => exact hf a c h
  | error d c => rfl

/-- Passes a token that is not the end of input. -/
def ofAdvance (c : Cursor) (h : c.current.kind ≠ .endOfInput) : Outcome Token c.weight :=
  ⟨advance c, advance_within h⟩

/-- What a rule that shrinks the cursor gives. -/
def ofShrinking {p : Parse α} (h : Shrinking p) (c : Cursor) : Outcome α c.weight :=
  ⟨p c, h c⟩

end Outcome

/-! ### Chains -/

open Outcome

theorem expect_closeParen_shrinking : Shrinking (expect .closeParen) :=
  expect_shrinking (by decide)

mutual

/-- Operands of a level with operators of the level between them, grouped to the left. -/
def chain (level : Level) (c : Cursor) : Outcome Expr c.weight :=
  (operand level c).andThen fun left c' h => (chainFrom level left c').mono h
termination_by 6 * c.weight + level.height + 1
decreasing_by all_goals omega

/-- What follows the operand `left` of a chain; it may be nothing. -/
def chainFrom (level : Level) (left : Expr) (c : Cursor) : Outcome Expr (c.weight + 1) :=
  match ho : level.operator? c.current.kind with
  | none => ⟨.ok left c, Nat.lt_succ_self _⟩
  | some operator =>
    let ahead := ofAdvance c fun he => by simp [he, Level.operator?_endOfInput] at ho
    (ahead.andThen fun token c' h =>
      ((operand level c').andThen fun right c'' h' =>
        (chainFrom level (.binary left operator right token.line) c'').mono h').mono
          (Nat.le_of_lt h)).mono (Nat.le_succ _)
termination_by 6 * c.weight
decreasing_by all_goals have := level.height_le; omega

def operand (level : Level) (c : Cursor) : Outcome Expr c.weight :=
  match level with
  | .sum => chain .product c
  | .product => factor c
termination_by 6 * c.weight + level.height
decreasing_by all_goals simp [Level.height]

/-- A number, a variable, or a sum between parentheses. -/
def factor (c : Cursor) : Outcome Expr c.weight :=
  match hk : c.current.kind with
  | .integer => ofShrinking integer_shrinking c
  | .decimal => ofShrinking decimal_shrinking c
  | .identifier => ofShrinking symbol_shrinking c
  | .openParen =>
    (ofAdvance c (by simp [hk])).andThen fun _ inner h =>
      ((chain .sum inner).andThen fun e closing h' =>
        ((ofShrinking expect_closeParen_shrinking closing).andThen fun _ after h'' =>
          ⟨.ok e after, h''⟩).mono (Nat.le_of_lt h')).mono (Nat.le_of_lt h)
  | _ => ofShrinking (unexpected_shrinking "expected a number, variable or `(`") c
termination_by 6 * c.weight + 1
decreasing_by all_goals simp only [Level.height]; omega

end

/-! ### Expressions -/

def expr : Parse Expr := fun c => (chain .sum c).result

/-- A product of factors. -/
def term : Parse Expr := fun c => (chain .product c).result

/-- A number, a variable, or an expression between parentheses. -/
def atom : Parse Expr := fun c => (factor c).result

/-- What follows the operand `left` on a level. -/
def chainTail (level : Level) (left : Expr) : Parse Expr := fun c => (chainFrom level left c).result

/-- The rule for the operands of a level. -/
def operandOf : Level → Parse Expr
  | .sum => term
  | .product => atom

theorem expr_shrinking : Shrinking expr := fun c => (chain .sum c).within

theorem term_shrinking : Shrinking term := fun c => (chain .product c).within

theorem atom_shrinking : Shrinking atom := fun c => (factor c).within

theorem operand_shrinking (level : Level) : Shrinking (operandOf level) := by
  cases level with
  | sum => exact term_shrinking
  | product => exact atom_shrinking

/-! ### The rules of expressions

What the recursion does, with the bounds left out. -/

theorem operand_result (level : Level) (c : Cursor) :
    (operand level c).result = operandOf level c := by
  cases level <;> (rw [operand]; rfl)

/-- An expression is a term and what follows it. -/
theorem expr_eq : expr = (do let left ← term; chainTail .sum left) := by
  funext c
  unfold expr
  rw [chain]
  exact andThen_result (operand_result .sum c) fun _ _ _ => rfl

/-- A term is a factor and what follows it. -/
theorem term_eq : term = (do let left ← atom; chainTail .product left) := by
  funext c
  unfold term
  rw [chain]
  exact andThen_result (operand_result .product c) fun _ _ _ => rfl

/-- Operators of the level and operands follow each other to the end of a chain. -/
theorem chainTail_eq (level : Level) (left : Expr) (c : Cursor) :
    chainTail level left c = match level.operator? c.current.kind with
      | none => .ok left c
      | some operator => (do
          let token ← advance
          let right ← operandOf level
          chainTail level (.binary left operator right token.line) : Parse Expr) c := by
  unfold chainTail
  rw [chainFrom]
  split
  · rename_i h
    simp only [h]
  · rename_i operator h
    simp only [h]
    rw [mono_result]
    refine andThen_result rfl fun token c' _ => ?_
    rw [mono_result]
    exact andThen_result (operand_result level c') fun _ _ _ => rfl

/-- A factor is told by its first token. -/
theorem atom_eq (c : Cursor) :
    atom c = (match c.current.kind with
      | .integer => number .integer .int
      | .decimal => number .decimal .float
      | .identifier => symbol
      | .openParen => do
        let _ ← advance
        let e ← expr
        let _ ← expect .closeParen
        return e
      | _ => unexpected "expected a number, variable or `(`" : Parse Expr) c := by
  unfold atom
  rw [factor]
  split
  all_goals rename_i h
  all_goals simp only [h]
  all_goals try rfl
  refine andThen_result rfl fun _ inner _ => ?_
  rw [mono_result]
  refine andThen_result rfl fun _ closing _ => ?_
  rw [mono_result]
  exact andThen_result rfl fun _ _ _ => rfl

end Parse

end DeskCalc
