import DeskCalc.Proofs.Evaluation

/-!
Code followed by the machine, without the numbers of the instructions: what comes of it is the machine
after the code or the fault that stopped it, so that code is followed piece by piece. Each instruction
has one lemma that says what it does when its operands have the right types.
-/

namespace DeskCalc

namespace Machine

/-- The machine after an instruction, or the fault that stopped it. -/
def next (m : Machine) (i : Instruction) : Except Fault Machine :=
  match step i m with
  | .ok _ m' => .ok m'
  | .error f _ => .error f

theorem next_eq_ok_iff {m m' : Machine} {i : Instruction} :
    m.next i = .ok m' ↔ step i m = .ok () m' := by
  unfold next
  cases step i m with
  | ok u m₁ => simp
  | error f m₁ => simp

/-- The machine after instructions in order, or the first fault. -/
def follow (code : List Instruction) (m : Machine) : Except Fault Machine :=
  code.foldlM next m

theorem follow_singleton (m : Machine) (i : Instruction) : follow [i] m = m.next i := by
  show (m.next i >>= fun m' => .ok m') = m.next i
  cases m.next i <;> rfl

theorem follow_append (code more : List Instruction) (m : Machine) :
    follow (code ++ more) m = follow code m >>= follow more := by
  simp only [follow, List.foldlM_append]
  rfl

/-- Instructions that are numbered are followed in the same way. -/
theorem execute_eq_ok_iff {code : List Instruction} {number : Nat} {m m' : Machine} :
    execute code number m = .ok () m' ↔ follow code m = .ok m' := by
  induction code generalizing number m with
  | nil => simp [execute, follow, pure, EStateM.pure, Except.pure]
  | cons i code ih =>
    simp only [execute, follow, List.foldlM_cons, next]
    cases step i m with
    | ok u m₁ => exact ih
    | error f m₁ => simp [bind, Except.bind]

theorem execute_cons_eq_ok_iff {i : Instruction} {code : List Instruction} {number : Nat}
    {m m' : Machine} : execute (i :: code) number m = .ok () m' ↔
      ∃ m₁, step i m = .ok () m₁ ∧ execute code (number + 1) m₁ = .ok () m' := by
  simp only [execute]
  cases step i m with
  | ok u m₁ => simp
  | error f m₁ => simp

theorem execute_cons_eq_error_iff {i : Instruction} {code : List Instruction} {number : Nat}
    {m m' : Machine} {e : RuntimeError} : execute (i :: code) number m = .error e m' ↔
      (∃ f, step i m = .error f m' ∧ e = ⟨f, number⟩) ∨
        ∃ m₁, step i m = .ok () m₁ ∧ execute code (number + 1) m₁ = .error e m' := by
  simp only [execute]
  cases step i m with
  | ok u m₁ => simp
  | error f m₁ =>
    constructor
    · rintro ⟨⟩
      exact .inl ⟨f, rfl, rfl⟩
    · rintro (⟨f', ⟨⟩, rfl⟩ | ⟨m₂, ⟨⟩, -⟩)
      rfl

theorem fault_of_execute {code : List Instruction} {number : Nat} {m m' : Machine}
    {e : RuntimeError} (h : execute code number m = .error e m') :
    follow code m = .error e.fault := by
  induction code generalizing number m with
  | nil => cases h
  | cons i code ih =>
    simp only [follow, List.foldlM_cons, next]
    rcases execute_cons_eq_error_iff.mp h with ⟨f, hs, rfl⟩ | ⟨m₁, hs, hrest⟩
    · rw [hs]
      rfl
    · rw [hs]
      exact ih hrest

/-! ### Instructions -/

def pushed (m : Machine) (v : Value) : Machine :=
  { m with stack := v :: m.stack }

theorem next_push (m : Machine) (v : Value) : m.next (.push v) = .ok (m.pushed v) := rfl

theorem next_load {m : Machine} {ty : Ty} {slot : Nat} {held : Option Value}
    (hs : m.slots[slot]? = some held) (ht : (held.getD (.zero ty)).ty = ty) :
    m.next (.load ty slot) = .ok (m.pushed (held.getD (.zero ty))) := by
  have hr : readSlot slot m = .ok held m := by simp only [readSlot, hs]
  simp only [next, step, bind, EStateM.bind, hr, asType, ht, if_true]
  rfl

theorem next_store {m : Machine} {ty : Ty} {slot : Nat} {v : Value} (hv : v.ty = ty)
    (hs : slot < m.slots.size) :
    (m.pushed v).next (.store ty slot) =
      .ok { m with slots := m.slots.setIfInBounds slot (some v) } := by
  simp only [next, step, bind, EStateM.bind, pop, pushed, asType, hv, if_true, pure, EStateM.pure,
    writeSlot, hs]

theorem next_widen (m : Machine) (n : Int64) :
    (m.pushed (.int n)).next .widen = .ok (m.pushed (.float (Number.wordToDouble n))) := rfl

theorem wordOperation_pushed (m : Machine) (operator : Operator) (l r : Int64) :
    wordOperation operator ((m.pushed (.int l)).pushed (.int r)) =
      match operator.word? l r with
      | some n => .ok () (m.pushed (.int n))
      | none => .error .overflow m := by
  simp only [wordOperation, bind, EStateM.bind, pop, pushed, asWord, pure, EStateM.pure]
  cases operator.word? l r <;> rfl

theorem doubleOperation_pushed (m : Machine) (operator : Operator) (l r : Float) :
    doubleOperation operator ((m.pushed (.float l)).pushed (.float r)) =
      .ok () (m.pushed (.float (operator.double l r))) := rfl

/-- A division looks for a zero on top before it takes its operands. -/
theorem operation_eq (m : Machine) (operator : Operator) (ty : Ty) :
    operation operator ty m =
      if operator = .div ∧ m.zeroOnTop ty = true then .error .divisionByZero m
      else match ty with
        | .int => wordOperation operator m
        | .float => doubleOperation operator m := by
  by_cases ho : operator = .div
  · subst ho
    show EStateM.bind (refuseZero ty) _ m = _
    by_cases hz : m.zeroOnTop ty = true
    · simp [EStateM.bind, refuseZero, hz]
    · simp only [EStateM.bind, refuseZero, hz]
      cases ty <;> rfl
  · rw [if_neg (fun h => ho h.1)]
    simp only [operation, if_neg ho]
    cases ty <;> rfl

/-- An operation on operands of its type is the operation on their values. -/
theorem next_arithmetic {m : Machine} {operator : Operator} {ty : Ty} {l r : Value}
    (hl : l.ty = ty) (hr : r.ty = ty) :
    ((m.pushed l).pushed r).next (.arithmetic operator ty) =
      (operator.evaluate l r).map m.pushed := by
  have hstep : step (.arithmetic operator ty) = operation operator ty := rfl
  rw [next, hstep, operation_eq]
  subst hl
  rcases l with l | l <;> rcases r with r | r <;> cases hr
  · have hz : ((m.pushed (.int l)).pushed (.int r)).zeroOnTop .int = decide (r = 0) := rfl
    rw [Operator.evaluate_int, Operator.onWords_eq]
    simp only [Value.ty, hz, decide_eq_true_eq]
    by_cases hd : operator = .div ∧ r = 0
    · rw [if_pos hd, if_pos hd]
      rfl
    · rw [if_neg hd, if_neg hd, wordOperation_pushed]
      cases operator.word? l r <;> rfl
  · have hz : ((m.pushed (.float l)).pushed (.float r)).zeroOnTop .float = (r == 0.0) := rfl
    rw [Operator.evaluate_float, Operator.onDoubles]
    simp only [Value.ty, hz]
    by_cases hd : operator = .div ∧ (r == 0.0) = true
    · rw [if_pos hd, if_pos hd]
      rfl
    · rw [if_neg hd, if_neg hd, doubleOperation_pushed]
      rfl

theorem next_print {m : Machine} {ty : Ty} {v : Value} (hv : v.ty = ty) :
    (m.pushed v).next (.print ty) = .ok { m.pushed v with output := m.output ++ [v] } := by
  simp only [next, step, bind, EStateM.bind, peek, pushed, asType, hv, if_true]
  rfl

/-- Printing a variable loads it, prints it and drops it. -/
theorem follow_print {m : Machine} {ty : Ty} {slot : Nat} {held : Option Value}
    (hs : m.slots[slot]? = some held) (ht : (held.getD (.zero ty)).ty = ty) :
    follow [.load ty slot, .print ty, .pop] m =
      .ok { m with output := m.output ++ [held.getD (.zero ty)] } := by
  simp only [follow, List.foldlM_cons, List.foldlM_nil, next_load hs ht, bind, Except.bind,
    next_print ht]
  rfl

end Machine

end DeskCalc
