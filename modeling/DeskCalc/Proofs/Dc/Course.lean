import DeskCalc.Proofs.Dc.Command
import DeskCalc.Proofs.Typing.Elaboration
import Mathlib.Logic.Function.Basic

/-!
What a program asks of a calculator, read off the tree that was written, whatever arithmetic the
calculator has: which variables are loaded and with which values, which operations are done and with
how many fractional digits, and what is printed. Main statement: the conversions of a checked tree
change nothing of it (`Stmt.AllAccepted.course_eq`).
-/

namespace DeskCalc

namespace Dc

/-- **An arithmetic in which no operation fails**: the numbers that numerals stand for and the result
of each operation with so many fractional digits. Numbers that digits stand for serve as precisions
and as indices. -/
structure Arithmetic (ν : Type) where
  zero : ν
  numeral : List Char → ν
  operate : Nat → Operator → ν → ν → ν
  natural? : ν → Option Nat
  shown : ν → String
  natural?_numeral : ∀ digits, Number.isDigits digits = true →
    natural? (numeral digits) = some (Number.digitsValue digits)

/-- What is done with numbers: one is loaded, or an operation is done on two with so many fractional
digits. -/
inductive Deed (ν : Type) where
  | loaded (x : ν)
  | operated (operator : Operator) (precision : Nat) (left right : ν)
  deriving Repr, DecidableEq

end Dc

open Dc (Arithmetic Deed)

/-- The number of fractional digits of an operation, by the types of its operands: a quotient of two
integers has none. -/
def Operator.fractionDigits (precision : Nat) : Operator → Ty → Ty → Nat
  | .div, .int, .int => 0
  | _, _, _ => precision

theorem Operator.fractionDigits_eq {operator : Operator} {lt rt : Ty} {precision : Nat}
    (h : ¬(operator = .div ∧ lt = .int ∧ rt = .int)) :
    operator.fractionDigits precision lt rt = precision := by
  unfold fractionDigits
  split
  · exact absurd ⟨rfl, rfl, rfl⟩ h
  · rfl

/-- How far a program has come: the type of every variable and the number last stored in it, the lines
that were printed, and all that was done. -/
structure Course (ν : Type) where
  types : String → Ty
  values : String → ν
  printed : List String
  deeds : List (Deed ν)

variable {ν : Type} (a : Arithmetic ν) (precision : Nat)

/-! ### Expressions -/

namespace Expr

def ty (types : String → Ty) : Expr → Ty
  | number _ ty _ => ty
  | symbol name _ => types name
  | binary left _ right _ =>
    if left.ty types = .int ∧ right.ty types = .int then .int else .float
  | convert _ target _ => target

/-- The number that an expression comes to. -/
def result (w : Course ν) : Expr → ν
  | number text _ _ => a.numeral text.toList
  | symbol name _ => w.values name
  | binary left operator right _ =>
    a.operate (operator.fractionDigits precision (left.ty w.types) (right.ty w.types)) operator
      (left.result w) (right.result w)
  | convert inner _ _ => inner.result w

/-- What an expression asks for, in order. -/
def deeds (w : Course ν) : Expr → List (Deed ν)
  | number .. => []
  | symbol name _ => [.loaded (w.values name)]
  | binary left operator right _ =>
    left.deeds w ++ right.deeds w ++
      [.operated operator
        (operator.fractionDigits precision (left.ty w.types) (right.ty w.types))
        (left.result a precision w) (right.result a precision w)]
  | convert inner _ _ => inner.deeds w

end Expr

/-! ### Statements -/

namespace Course

def start : Course ν :=
  ⟨fun _ => .int, fun _ => a.zero, [], []⟩

/-- The course with a new variable, in which nothing was stored. -/
def declared (w : Course ν) (name : String) (ty : Ty) : Course ν :=
  { w with
    types := Function.update w.types name ty
    values := Function.update w.values name a.zero }

def stored (w : Course ν) (name : String) (e : Expr) : Course ν :=
  { w with
    values := Function.update w.values name (e.result a precision w)
    deeds := w.deeds ++ e.deeds a precision w }

def showed (w : Course ν) (name : String) : Course ν :=
  { w with
    printed := w.printed ++ [a.shown (w.values name)]
    deeds := w.deeds ++ [.loaded (w.values name)] }

end Course

/-- **What a statement asks for.** -/
def Stmt.course (w : Course ν) : Stmt → Course ν
  | declaration target ty none _ => w.declared a target.name ty
  | declaration target ty (some value) _ =>
    (w.declared a target.name ty).stored a precision target.name value
  | assignment target value _ => w.stored a precision target.name value
  | print target _ => w.showed a target.name

def Stmt.courseAll (body : List Stmt) (w : Course ν) : Course ν :=
  body.foldl (fun w s => s.course a precision w) w

/-- **What a program asks for.** -/
def Program.course (p : Program) : Course ν :=
  Stmt.courseAll a precision p.body (.start a)

def Program.take (p : Program) (count : Nat) : Program :=
  { p with body := p.body.take count }

/-! ### Conversions change nothing -/

/-- Every name in scope has the type that is known of it. -/
def Scopes.HasTypes (scopes : Scopes) (types : String → Ty) : Prop :=
  ∀ name found, scopes.lookup name = some found → types name = found.ty

theorem Scopes.hasTypes_start (types : String → Ty) : Scopes.start.HasTypes types := by
  rintro name found ⟨⟩

theorem Scopes.HasTypes.add {scopes : Scopes} {types : String → Ty} (h : scopes.HasTypes types)
    (name : String) (ty : Ty) (slot? : Option Nat) :
    (scopes.add name ⟨ty, slot?⟩).HasTypes (Function.update types name ty) := by
  intro name' found hl
  rw [lookup_add] at hl
  by_cases hn : name' = name
  · rw [if_pos hn] at hl
    cases hl
    rw [hn, Function.update_self]
  · rw [if_neg hn] at hl
    rw [Function.update_of_ne hn]
    exact h name' found hl

variable {a precision}

namespace Expr

variable {scopes : Scopes} {e e' : Expr} {n : Nat} {ty : Ty} {w : Course ν}

theorem Elaborates.ty_eq (h : e.Elaborates scopes e' n ty) (ht : scopes.HasTypes w.types) :
    e.ty w.types = ty := by
  induction h with
  | number => rfl
  | symbol hs => exact ht _ _ hs
  | integers _ _ ihl ihr => rw [Expr.ty, ihl, ihr, if_pos ⟨rfl, rfl⟩]
  | doubles _ _ hne ihl ihr => rw [Expr.ty, ihl, ihr, if_neg hne]
  | convert => rfl

theorem ty_widened (e : Expr) (h : e.ty w.types = ty) : (e.widened ty).ty w.types = .float := by
  cases ty with
  | int => rfl
  | float => exact h

theorem result_widened (e : Expr) (ty : Ty) :
    (e.widened ty).result a precision w = e.result a precision w := by
  cases ty <;> rfl

theorem deeds_widened (e : Expr) (ty : Ty) :
    (e.widened ty).deeds a precision w = e.deeds a precision w := by
  cases ty <;> rfl

/-- **Conversions change nothing**, neither the result of an expression nor what it asks for. -/
theorem Elaborates.course_eq (h : e.Elaborates scopes e' n ty) (ht : scopes.HasTypes w.types) :
    e'.result a precision w = e.result a precision w ∧
      e'.deeds a precision w = e.deeds a precision w := by
  induction h with
  | number => exact ⟨rfl, rfl⟩
  | symbol => exact ⟨rfl, rfl⟩
  | integers hl hr ihl ihr =>
    simp only [result, deeds, hl.ty_eq ht, hr.ty_eq ht, hl.idempotent.ty_eq ht,
      hr.idempotent.ty_eq ht, ihl, ihr, and_self]
  | @doubles _ _ _ _ operator _ _ _ lt rt hl hr hne ihl ihr =>
    have hwritten : operator.fractionDigits precision lt rt = precision :=
      Operator.fractionDigits_eq fun h => hne h.2
    have hwidened : operator.fractionDigits precision .float .float = precision :=
      Operator.fractionDigits_eq (by simp)
    simp only [result, deeds, hl.ty_eq ht, hr.ty_eq ht, ty_widened _ (hl.idempotent.ty_eq ht),
      ty_widened _ (hr.idempotent.ty_eq ht), hwritten, hwidened, result_widened, deeds_widened,
      ihl, ihr, and_self]
  | convert _ ih => exact ih

theorem Adapts.stored_eq {expected : Ty} (h : e.Adapts scopes expected e' n)
    (ht : scopes.HasTypes w.types) (name : String) :
    w.stored a precision name e' = w.stored a precision name e := by
  have heq : e'.result a precision w = e.result a precision w ∧
      e'.deeds a precision w = e.deeds a precision w := by
    rcases h with he | ⟨he, rfl⟩
    · exact he.course_eq ht
    · exact he.course_eq ht
  rw [Course.stored, heq.1, heq.2, Course.stored]

end Expr

namespace Stmt

variable {scopes scopes' : Scopes} {s s' : Stmt} {body body' : List Stmt} {n : Nat} {w : Course ν}

theorem Accepted.course_eq (h : s.Accepted scopes s' n scopes') (ht : scopes.HasTypes w.types) :
    s'.course a precision w = s.course a precision w ∧
      scopes'.HasTypes (s.course a precision w).types := by
  cases h with
  | declaration => exact ⟨rfl, ht.add _ _ _⟩
  | @initialised target ty _ _ _ _ _ hv =>
    have ht' := ht.add target.name ty none
    exact ⟨hv.stored_eq (w := w.declared a target.name ty) ht' _, ht'⟩
  | assignment _ hv => exact ⟨hv.stored_eq ht _, ht⟩
  | print => exact ⟨rfl, ht⟩

/-- **Checked statements ask for what the statements ask for** that they were made from. -/
theorem AllAccepted.course_eq (h : AllAccepted scopes body body' n scopes')
    (ht : scopes.HasTypes w.types) : courseAll a precision body' w = courseAll a precision body w := by
  induction h generalizing w with
  | nil => rfl
  | @cons _ _ _ s s' _ _ _ _ hs _ ih =>
    have hfirst : s'.course a precision w = s.course a precision w := (hs.course_eq ht).1
    rw [courseAll, List.foldl_cons, hfirst]
    exact ih (hs.course_eq ht).2

theorem AllAccepted.take (h : AllAccepted scopes body body' n scopes') (count : Nat) :
    ∃ m scopes'', AllAccepted scopes (body.take count) (body'.take count) m scopes'' := by
  induction h generalizing count with
  | nil => exact ⟨0, _, by simpa using .nil⟩
  | cons hs _ ih =>
    cases count with
    | zero => exact ⟨0, _, .nil⟩
    | succ count =>
      obtain ⟨m, scopes'', hrest⟩ := ih count
      exact ⟨_, _, .cons hs hrest⟩

end Stmt

end DeskCalc
