import DeskCalc.Code.Bytecode
import DeskCalc.Machine.Run
import DeskCalc.Proofs.Code.Bare
import DeskCalc.Proofs.Outcome
import Mathlib.Logic.Function.Basic

/-!
What a program means, read off its tree. Every variable has a value, at first the zero of its type;
statements change values and print them in order. Main statements: an expression of a type evaluates
to values of the type (`Expr.Elaborates.ty_evaluate`), and the conversions that the checker puts in
change no result (`Expr.Elaborates.evaluate_eq`).
-/

namespace DeskCalc

/-! ### Values and operations -/

def Fault.IsArithmetic (f : Fault) : Prop :=
  f = .divisionByZero ∨ f = .overflow

namespace Value

/-- The value as a double; a word is widened. -/
def double : Value → Float
  | int n => Number.wordToDouble n
  | float x => x

/-- The value as a variable of the type holds it: a word is widened for a double. The language has
no way from a double to a word. -/
def as : Ty → Value → Value
  | .int, v => v
  | .float, v => float v.double

theorem as_ty (v : Value) : v.as v.ty = v := by
  cases v <;> rfl

theorem ty_as {ty : Ty} {v : Value} (h : v.ty = ty ∨ ty = .float) : (v.as ty).ty = ty := by
  cases ty with
  | int => simpa [as] using h
  | float => rfl

end Value

namespace Operator

/-- The operation on two words: the exact result on integers, as long as there is one and it fits
into 64 bits. -/
def onWords (operator : Operator) (l r : Int64) : Except Fault Value :=
  let n := operator.exact l.toInt r.toInt
  if operator = .div ∧ r = 0 then .error .divisionByZero
  else if Int64.minValue.toInt ≤ n ∧ n ≤ Int64.maxValue.toInt then .ok (.int (.ofInt n))
  else .error .overflow

def onDoubles (operator : Operator) (l r : Float) : Except Fault Value :=
  if operator = .div ∧ r == 0.0 then .error .divisionByZero
  else .ok (.float (operator.double l r))

/-- The operation on two values; if one of them is a double, the other one is widened. -/
def evaluate (operator : Operator) : Value → Value → Except Fault Value
  | .int l, .int r => operator.onWords l r
  | l, r => operator.onDoubles l.double r.double

theorem evaluate_int (operator : Operator) (l r : Int64) :
    operator.evaluate (.int l) (.int r) = operator.onWords l r := rfl

theorem evaluate_float (operator : Operator) (l r : Float) :
    operator.evaluate (.float l) (.float r) = operator.onDoubles l r := rfl

theorem onWords_eq (operator : Operator) (l r : Int64) :
    operator.onWords l r =
      if operator = .div ∧ r = 0 then .error .divisionByZero
      else match operator.word? l r with
        | some n => .ok (.int n)
        | none => .error .overflow := by
  simp only [onWords, word?, Number.word?, ← Number.fitsWord_iff]
  split
  · rfl
  · split <;> rfl

/-- A result on words is exact. -/
theorem exact_of_onWords {operator : Operator} {l r : Int64} {v : Value}
    (h : operator.onWords l r = .ok v) :
    ¬(operator = .div ∧ r = 0) ∧ ∃ n : Int64, v = .int n ∧ n.toInt = operator.exact l.toInt r.toInt := by
  rw [onWords_eq] at h
  split at h
  · cases h
  · rename_i hne
    refine ⟨hne, ?_⟩
    split at h
    · rename_i n hn
      cases h
      exact ⟨n, rfl, Number.toInt_of_word? hn⟩
    · cases h

theorem isArithmetic_of_evaluate {operator : Operator} {l r : Value} {f : Fault}
    (h : operator.evaluate l r = .error f) : f.IsArithmetic := by
  unfold evaluate at h
  split at h
  · rw [onWords_eq] at h
    split at h
    · cases h
      exact .inl rfl
    · split at h
      · cases h
      · cases h
        exact .inr rfl
  · unfold onDoubles at h
    split at h
    · cases h
      exact .inl rfl
    · cases h

/-- An operation gives a word if both operands are words, and a double otherwise. -/
theorem ty_evaluate {operator : Operator} {l r v : Value} (h : operator.evaluate l r = .ok v) :
    v.ty = if l.ty = .int ∧ r.ty = .int then .int else .float := by
  unfold evaluate at h
  split at h
  · rw [onWords_eq] at h
    split at h
    · cases h
    · split at h
      · cases h
        rfl
      · cases h
  · rename_i hne
    unfold onDoubles at h
    split at h
    · cases h
    · cases h
      cases l with
      | int l => cases r with
        | int r => exact absurd rfl (hne l r rfl)
        | float r => rfl
      | float l => rfl

/-- Widening the operands first changes nothing, unless both are words. -/
theorem evaluate_as_float {operator : Operator} {l r : Value} (h : ¬(l.ty = .int ∧ r.ty = .int)) :
    operator.evaluate (l.as .float) (r.as .float) = operator.evaluate l r := by
  cases l with
  | int l => cases r with
    | int r => exact absurd ⟨rfl, rfl⟩ h
    | float r => rfl
  | float l => cases r <;> rfl

end Operator

/-! ### Expressions -/

namespace Expr

/-- **The value of an expression**, from the left to the right. -/
def evaluate (values : String → Value) : Expr → Except Fault Value
  | number text ty _ => .ok ((literalValue? text ty).getD (.zero ty))
  | symbol name _ => .ok (values name)
  | binary left operator right _ => do
    let l ← left.evaluate values
    let r ← right.evaluate values
    operator.evaluate l r
  | convert inner target _ => (inner.evaluate values).map (·.as target)

theorem evaluate_binary_eq_ok_iff {values : String → Value} {left right : Expr} {operator : Operator}
    {line : Nat} {v : Value} :
    (binary left operator right line).evaluate values = .ok v ↔
      ∃ l, left.evaluate values = .ok l ∧ ∃ r, right.evaluate values = .ok r ∧
        operator.evaluate l r = .ok v := by
  simp only [evaluate, Except.bind_eq_ok_iff]

theorem evaluate_convert_eq_ok_iff {values : String → Value} {inner : Expr} {target : Ty}
    {line : Nat} {v : Value} :
    (convert inner target line).evaluate values = .ok v ↔
      ∃ i, inner.evaluate values = .ok i ∧ i.as target = v := by
  simp only [evaluate, Except.map_eq_ok_iff]

/-- Only arithmetic stops the evaluation of an expression. -/
theorem isArithmetic_of_evaluate {values : String → Value} {e : Expr} {f : Fault}
    (h : e.evaluate values = .error f) : f.IsArithmetic := by
  induction e with
  | number => cases h
  | symbol => cases h
  | binary left operator right line ihl ihr =>
    simp only [evaluate, Except.bind_eq_error_iff] at h
    rcases h with h | ⟨l, -, h | ⟨r, -, h⟩⟩
    · exact ihl h
    · exact ihr h
    · exact Operator.isArithmetic_of_evaluate h
  | convert inner target line ih => exact ih (Except.map_eq_error_iff.mp h)

end Expr

/-- Every name in scope has a value of its type. -/
def Scopes.Typed (scopes : Scopes) (values : String → Value) : Prop :=
  ∀ name found, scopes.lookup name = some found → (values name).ty = found.ty

namespace Expr

variable {scopes : Scopes} {values : String → Value} {e e' : Expr} {n : Nat} {ty : Ty}

theorem ty_literalValue? {text : String} {v : Value} (h : literalValue? text ty = some v) :
    v.ty = ty := by
  cases ty with
  | int =>
    obtain ⟨n, -, rfl⟩ := Option.map_eq_some_iff.mp h
    rfl
  | float =>
    obtain ⟨x, -, rfl⟩ := Option.map_eq_some_iff.mp h
    rfl

/-- **Values have the type of the expression.** -/
theorem Elaborates.ty_evaluate (h : e.Elaborates scopes e' n ty) (hw : e.OnlyWidens)
    (ht : scopes.Typed values) {v : Value} (hv : e.evaluate values = .ok v) : v.ty = ty := by
  induction h generalizing v with
  | @number text ty line =>
    cases hv
    cases hl : literalValue? text ty with
    | none => exact Value.ty_zero ty
    | some v => exact ty_literalValue? hl
  | symbol hs =>
    cases hv
    exact ht _ _ hs
  | integers _ _ ihl ihr =>
    obtain ⟨hwl, hwr⟩ := onlyWidens_binary.mp hw
    obtain ⟨l, hl, r, hr, hv⟩ := evaluate_binary_eq_ok_iff.mp hv
    rw [Operator.ty_evaluate hv, ihl hwl hl, ihr hwr hr]
    rfl
  | doubles _ _ hne ihl ihr =>
    obtain ⟨hwl, hwr⟩ := onlyWidens_binary.mp hw
    obtain ⟨l, hl, r, hr, hv⟩ := evaluate_binary_eq_ok_iff.mp hv
    rw [Operator.ty_evaluate hv, ihl hwl hl, ihr hwr hr, if_neg hne]
  | convert _ ih =>
    obtain ⟨rfl, hwi⟩ := onlyWidens_convert.mp hw
    obtain ⟨i, -, rfl⟩ := evaluate_convert_eq_ok_iff.mp hv
    rfl

theorem evaluate_widened (h : e.Elaborates scopes e' n ty) (hw : e.OnlyWidens)
    (ht : scopes.Typed values) :
    (e.widened ty).evaluate values = (e.evaluate values).map (·.as .float) := by
  cases ty with
  | int => rfl
  | float =>
    show e.evaluate values = _
    cases he : e.evaluate values with
    | error d => rfl
    | ok v =>
      have hv := h.ty_evaluate hw ht he
      show _ = Except.ok (v.as .float)
      rw [← hv, Value.as_ty]

/-- **Conversions change no result.** The expression with its conversions evaluates to what it
evaluates to without them. -/
theorem Elaborates.evaluate_eq (h : e.Elaborates scopes e' n ty) (hw : e.OnlyWidens)
    (ht : scopes.Typed values) : e'.evaluate values = e.evaluate values := by
  induction h with
  | number => rfl
  | symbol => rfl
  | integers _ _ ihl ihr =>
    obtain ⟨hwl, hwr⟩ := onlyWidens_binary.mp hw
    simp only [evaluate, ihl hwl, ihr hwr]
  | @doubles left right _ _ operator _ _ _ lt rt hl hr hne ihl ihr =>
    obtain ⟨hwl, hwr⟩ := onlyWidens_binary.mp hw
    simp only [evaluate]
    rw [evaluate_widened hl.idempotent (hl.onlyWidens hwl) ht, ihl hwl,
      evaluate_widened hr.idempotent (hr.onlyWidens hwr) ht, ihr hwr]
    cases hvl : left.evaluate values with
    | error d => rfl
    | ok l =>
      cases hvr : right.evaluate values with
      | error d => rfl
      | ok r =>
        have htl := hl.ty_evaluate hwl ht hvl
        have htr := hr.ty_evaluate hwr ht hvr
        exact Operator.evaluate_as_float (by rw [htl, htr]; exact hne)
  | convert _ ih =>
    obtain ⟨rfl, hwi⟩ := onlyWidens_convert.mp hw
    simp only [evaluate, ih hwi]

/-- What is done with the value for a variable of the expected type comes to the same, too. -/
theorem Adapts.evaluate_eq {α : Type} {expected : Ty} (h : e.Adapts scopes expected e' n)
    (hw : e.OnlyWidens) (ht : scopes.Typed values) (f : Value → α) :
    (e'.evaluate values).map (fun v => f (v.as expected)) =
      (e.evaluate values).map (fun v => f (v.as expected)) := by
  rcases h with he | ⟨he, rfl⟩
  · rw [he.evaluate_eq hw ht]
  · show Except.map _ (Except.map _ _) = _
    rw [he.evaluate_eq hw ht]
    cases e.evaluate values <;> rfl

theorem Adapts.ty_evaluate {expected : Ty} (h : e.Adapts scopes expected e' n) (hw : e.OnlyWidens)
    (ht : scopes.Typed values) {v : Value} (hv : e.evaluate values = .ok v) :
    (v.as expected).ty = expected := by
  rcases h with he | ⟨he, rfl⟩
  · exact Value.ty_as (.inl (he.ty_evaluate hw ht hv))
  · rfl

end Expr

/-! ### Statements -/

/-- How far an evaluation has come: the values of all variables, and what was printed. A name that
was never declared reads as the word zero, but a checked program does not read it. -/
structure Evaluation where
  values : String → Value
  printed : List Value

namespace Evaluation

def start : Evaluation :=
  ⟨fun _ => .zero .int, []⟩

def set (m : Evaluation) (name : String) (v : Value) : Evaluation :=
  { m with values := Function.update m.values name v }

end Evaluation

/-- **What a statement does.** A declared variable holds the zero of its type until its first value
is known, and a stored value is brought to the type of the value that the variable holds. -/
def Stmt.evaluate (m : Evaluation) : Stmt → Except Fault Evaluation
  | declaration target ty none _ => .ok (m.set target.name (.zero ty))
  | declaration target ty (some value) _ =>
    let m := m.set target.name (.zero ty)
    (value.evaluate m.values).map fun v => m.set target.name (v.as ty)
  | assignment target value _ =>
    (value.evaluate m.values).map fun v => m.set target.name (v.as (m.values target.name).ty)
  | print target _ => .ok { m with printed := m.printed ++ [m.values target.name] }

/-- Statements in order, up to the first fault. -/
def Stmt.evaluateAll (body : List Stmt) (m : Evaluation) : Except Fault Evaluation :=
  body.foldlM (fun m s => s.evaluate m) m

/-- **The values that a program prints**, or the fault that stops it. -/
def Program.evaluate (p : Program) : Except Fault (List Value) :=
  (Stmt.evaluateAll p.body .start).map Evaluation.printed

/-! ### Checking keeps the meaning -/

theorem Scopes.typed_start (values : String → Value) : Scopes.start.Typed values := by
  rintro name found ⟨⟩

theorem Scopes.Typed.add {scopes : Scopes} {m : Evaluation} (h : scopes.Typed m.values)
    (name : String) (slot? : Option Nat) {ty : Ty} {v : Value} (hv : v.ty = ty) :
    (scopes.add name ⟨ty, slot?⟩).Typed (m.set name v).values := by
  intro name' found hl
  rw [lookup_add] at hl
  show (Function.update m.values name v name').ty = found.ty
  by_cases hn : name' = name
  · rw [if_pos hn] at hl
    cases hl
    rw [hn, Function.update_self, hv]
  · rw [if_neg hn] at hl
    rw [Function.update_of_ne hn]
    exact h name' found hl

theorem Scopes.Typed.set {scopes : Scopes} {m : Evaluation} (h : scopes.Typed m.values)
    (name : String) {v : Value} (hv : v.ty = (m.values name).ty) :
    scopes.Typed (m.set name v).values := by
  intro name' found hl
  show (Function.update m.values name v name').ty = found.ty
  by_cases hn : name' = name
  · rw [hn, Function.update_self, hv, ← hn]
    exact h name' found hl
  · rw [Function.update_of_ne hn]
    exact h name' found hl

namespace Stmt

variable {scopes scopes' : Scopes} {s s' : Stmt} {body body' : List Stmt} {n : Nat}
  {m m' : Evaluation}

theorem Accepted.typed (h : s.Accepted scopes s' n scopes') (hw : s.OnlyWidens)
    (ht : scopes.Typed m.values) (hm : s.evaluate m = .ok m') : scopes'.Typed m'.values := by
  cases h with
  | declaration =>
    cases hm
    exact ht.add _ _ (Value.ty_zero _)
  | @initialised target ty _ value _ _ _ hv =>
    have ht' := ht.add target.name none (Value.ty_zero ty)
    obtain ⟨v, he, rfl⟩ := Except.map_eq_ok_iff.mp hm
    have hty := hv.ty_evaluate (hw _ rfl) ht' he
    refine ht'.set _ ?_
    rw [hty]
    exact (ht' _ _ (Scopes.lookup_add_self ..)).symm
  | assignment hl hv =>
    obtain ⟨v, he, rfl⟩ := Except.map_eq_ok_iff.mp hm
    refine ht.set _ ?_
    rw [ht _ _ hl]
    exact hv.ty_evaluate (hw _ rfl) ht he
  | print =>
    cases hm
    exact ht

theorem Accepted.evaluate_eq (h : s.Accepted scopes s' n scopes') (hw : s.OnlyWidens)
    (ht : scopes.Typed m.values) : s'.evaluate m = s.evaluate m := by
  cases h with
  | declaration => rfl
  | @initialised target ty _ value value' _ _ hv =>
    have ht' := ht.add target.name none (Value.ty_zero ty)
    exact hv.evaluate_eq (hw _ rfl) ht' _
  | assignment hl hv =>
    have hty := ht _ _ hl
    simp only [evaluate, hty]
    exact hv.evaluate_eq (hw _ rfl) ht _
  | print => rfl

/-- **Checked statements do what the statements do** that they were made from. -/
theorem AllAccepted.evaluateAll_eq (h : AllAccepted scopes body body' n scopes')
    (hw : ∀ s ∈ body, s.OnlyWidens) (ht : scopes.Typed m.values) :
    evaluateAll body' m = evaluateAll body m := by
  induction h generalizing m with
  | nil => rfl
  | @cons _ _ _ s s' body body' _ _ hs _ ih =>
    rw [List.forall_mem_cons] at hw
    simp only [evaluateAll, List.foldlM_cons, hs.evaluate_eq hw.1 ht]
    cases hm : s.evaluate m with
    | error d => rfl
    | ok m' => exact ih hw.2 (hs.typed hw.1 ht hm)

end Stmt

end DeskCalc
