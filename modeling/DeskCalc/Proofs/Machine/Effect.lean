import DeskCalc.Proofs.Machine.Follow

/-!
Everything that an instruction can do. An instruction that goes through takes operands off the stack
and leaves results in their place (`Works`); one that stops the machine does so with a fault, and has
taken some operands by then (`Stops`). Main statements: every step is one of these
(`step_eq_ok_iff`, `step_eq_error_iff`), so a step that fails changes nothing but the stack, from which
it has taken two values at most, and a step that goes through changes only what the instruction names
(`step_changes_only_its_target`).
-/

namespace DeskCalc

/-! ### Operands -/

namespace Value

variable {v : Value}

theorem exists_int (h : v.ty ≠ .float) : ∃ n, v = .int n := by
  cases v with
  | int n => exact ⟨n, rfl⟩
  | float x => exact absurd rfl h

theorem exists_float (h : v.ty ≠ .int) : ∃ x, v = .float x := by
  cases v with
  | int n => exact absurd rfl h
  | float x => exact ⟨x, rfl⟩

end Value

/-- Operands of the types do not lie on the stack, the first of them on top: the fault that says so, and
the stack that is left when it is found. Each operand is taken and looked at before the next one. -/
inductive Lacks : List Ty → List Value → Fault → List Value → Prop
  | missing {ty : Ty} {types : List Ty} : Lacks (ty :: types) [] .stackUnderflow []
  | mistyped {ty : Ty} {types : List Ty} {v : Value} {stack : List Value} :
    v.ty ≠ ty → Lacks (ty :: types) (v :: stack) (.typeMismatch ty v.ty) stack
  | deeper {ty : Ty} {types : List Ty} {v : Value} {stack rest : List Value} {f : Fault} :
    v.ty = ty → Lacks types stack f rest → Lacks (ty :: types) (v :: stack) f rest

namespace Lacks

variable {types : List Ty} {stack rest : List Value} {f : Fault}

/-- Operands of the types lie on the stack, or they do not. -/
theorem lacks_or_has (types : List Ty) (stack : List Value) :
    (∃ f rest, Lacks types stack f rest) ∨
      ∃ operands rest, stack = operands ++ rest ∧ operands.map Value.ty = types := by
  induction types generalizing stack with
  | nil => exact .inr ⟨[], stack, rfl, rfl⟩
  | cons ty types ih =>
    cases stack with
    | nil => exact .inl ⟨_, _, .missing⟩
    | cons v stack =>
      by_cases hv : v.ty = ty
      · rcases ih stack with ⟨f, rest, hl⟩ | ⟨operands, rest, rfl, rfl⟩
        · exact .inl ⟨f, rest, .deeper hv hl⟩
        · exact .inr ⟨v :: operands, rest, rfl, by rw [List.map_cons, hv]⟩
      · exact .inl ⟨_, _, .mistyped hv⟩

/-- No more is taken than was asked for. -/
theorem popped (h : Lacks types stack f rest) :
    ∃ popped, popped.length ≤ types.length ∧ stack = popped ++ rest := by
  induction h with
  | missing => exact ⟨[], Nat.zero_le _, rfl⟩
  | @mistyped ty types v stack _ => exact ⟨[v], Nat.le_add_left _ _, rfl⟩
  | @deeper ty types v stack rest f _ _ ih =>
    obtain ⟨popped, hle, rfl⟩ := ih
    exact ⟨v :: popped, Nat.succ_le_succ hle, rfl⟩

theorem not_isArithmetic (h : Lacks types stack f rest) : ¬f.IsArithmetic := by
  induction h with
  | missing => exact fun h => by rcases h with h | h <;> cases h
  | mistyped _ => exact fun h => by rcases h with h | h <;> cases h
  | deeper _ _ ih => exact ih

end Lacks

namespace Machine

variable {m m' : Machine} {i : Instruction} {f : Fault} {operands results rest : List Value}

/-! ### What goes through and what does not -/

/-- The instruction takes the operands, the first of them on top, and leaves the results. -/
inductive Works (m : Machine) : Instruction → List Value → List Value → Prop
  | push (v : Value) : Works m (.push v) [] [v]
  | load {ty : Ty} {slot : Nat} {held : Option Value} : m.slots[slot]? = some held →
    (held.getD (.zero ty)).ty = ty → Works m (.load ty slot) [] [held.getD (.zero ty)]
  | store {ty : Ty} {slot : Nat} {v : Value} : v.ty = ty → slot < m.slots.size →
    Works m (.store ty slot) [v] []
  | arithmetic {operator : Operator} {ty : Ty} {l r v : Value} : l.ty = ty → r.ty = ty →
    operator.evaluate l r = .ok v → Works m (.arithmetic operator ty) [r, l] [v]
  | widen (n : Int64) : Works m .widen [.int n] [.float (Number.wordToDouble n)]
  | print {ty : Ty} {v : Value} : v.ty = ty → Works m (.print ty) [v] [v]
  | pop (v : Value) : Works m .pop [v] []

/-- The instruction stops the machine with the fault and leaves the stack. -/
inductive Stops (m : Machine) : Instruction → Fault → List Value → Prop
  | unknownSource {ty : Ty} {slot : Nat} : m.slots[slot]? = none →
    Stops m (.load ty slot) (.slotOutOfRange slot) m.stack
  | otherHeld {ty : Ty} {slot : Nat} {held : Option Value} : m.slots[slot]? = some held →
    (held.getD (.zero ty)).ty ≠ ty →
    Stops m (.load ty slot) (.typeMismatch ty (held.getD (.zero ty)).ty) m.stack
  | store {ty : Ty} {slot : Nat} {f : Fault} {rest : List Value} : Lacks [ty] m.stack f rest →
    Stops m (.store ty slot) f rest
  | unknownTarget {ty : Ty} {slot : Nat} {v : Value} {rest : List Value} : m.stack = v :: rest →
    v.ty = ty → m.slots.size ≤ slot → Stops m (.store ty slot) (.slotOutOfRange slot) rest
  | zeroDivisor {ty : Ty} : m.zeroOnTop ty = true →
    Stops m (.arithmetic .div ty) .divisionByZero m.stack
  | arithmetic {operator : Operator} {ty : Ty} {f : Fault} {rest : List Value} :
    ¬(operator = .div ∧ m.zeroOnTop ty = true) → Lacks [ty, ty] m.stack f rest →
    Stops m (.arithmetic operator ty) f rest
  | overflow {operator : Operator} {l r : Int64} {rest : List Value} :
    m.stack = .int r :: .int l :: rest → operator.evaluate (.int l) (.int r) = .error .overflow →
    Stops m (.arithmetic operator .int) .overflow rest
  | widen {f : Fault} {rest : List Value} : Lacks [.int] m.stack f rest → Stops m .widen f rest
  | print {ty : Ty} {f : Fault} {rest : List Value} : Lacks [ty] m.stack f rest →
    Stops m (.print ty) f m.stack
  | pop : m.stack = [] → Stops m .pop .stackUnderflow []

/-- An operation on two operands of its type fails for its divisor or for its result, which no word
holds. -/
theorem fault_of_evaluate {operator : Operator} {ty : Ty} {l r : Value} (hs : m.stack = r :: l :: rest)
    (hl : l.ty = ty) (hr : r.ty = ty) (h : operator.evaluate l r = .error f) :
    operator = .div ∧ m.zeroOnTop ty = true ∧ f = .divisionByZero ∨
      ∃ l' r', l = .int l' ∧ r = .int r' ∧ f = .overflow := by
  obtain ⟨stack, slots, output⟩ := m
  cases hs
  subst hl
  rcases l with l | l <;> rcases r with r | r <;> cases hr
  · rw [Operator.evaluate_int, Operator.onWords_eq] at h
    split at h
    · rename_i hz
      cases h
      exact .inl ⟨hz.1, decide_eq_true hz.2, rfl⟩
    · split at h
      · cases h
      · cases h
        exact .inr ⟨l, r, rfl, rfl, rfl⟩
  · rw [Operator.evaluate_float, Operator.onDoubles] at h
    split at h
    · rename_i hz
      cases h
      exact .inl ⟨hz.1, hz.2, rfl⟩
    · cases h

/-- Every instruction goes through or stops the machine. -/
theorem works_or_stops (m : Machine) (i : Instruction) :
    (∃ operands results rest, Works m i operands results ∧ m.stack = operands ++ rest) ∨
      ∃ f rest, Stops m i f rest := by
  cases i with
  | push v => exact .inl ⟨[], [v], m.stack, .push v, rfl⟩
  | load ty slot =>
    cases hs : m.slots[slot]? with
    | none => exact .inr ⟨_, _, .unknownSource hs⟩
    | some held =>
      by_cases ht : (held.getD (.zero ty)).ty = ty
      · exact .inl ⟨_, _, _, .load hs ht, rfl⟩
      · exact .inr ⟨_, _, .otherHeld hs ht⟩
  | store ty slot =>
    rcases Lacks.lacks_or_has [ty] m.stack with ⟨f, rest, hl⟩ | ⟨operands, rest, hs, ht⟩
    · exact .inr ⟨f, rest, .store hl⟩
    · obtain ⟨v, rfl, hv⟩ := List.map_eq_singleton_iff.mp ht
      by_cases hslot : slot < m.slots.size
      · exact .inl ⟨_, _, rest, .store hv hslot, hs⟩
      · exact .inr ⟨_, _, .unknownTarget hs hv (Nat.not_lt.mp hslot)⟩
  | arithmetic operator ty =>
    by_cases hz : operator = .div ∧ m.zeroOnTop ty = true
    · obtain ⟨rfl, hz⟩ := hz
      exact .inr ⟨_, _, .zeroDivisor hz⟩
    rcases Lacks.lacks_or_has [ty, ty] m.stack with ⟨f, rest, hl⟩ | ⟨operands, rest, hs, ht⟩
    · exact .inr ⟨f, rest, .arithmetic hz hl⟩
    · obtain ⟨r, operands, rfl, hr, ht⟩ := List.map_eq_cons_iff.mp ht
      obtain ⟨l, rfl, hl⟩ := List.map_eq_singleton_iff.mp ht
      cases he : operator.evaluate l r with
      | ok v => exact .inl ⟨_, _, rest, .arithmetic hl hr he, hs⟩
      | error f =>
        rcases fault_of_evaluate hs hl hr he with ⟨ho, hzero, -⟩ | ⟨l, r, rfl, rfl, rfl⟩
        · exact absurd ⟨ho, hzero⟩ hz
        · subst hl
          exact .inr ⟨_, _, .overflow hs he⟩
  | widen =>
    rcases Lacks.lacks_or_has [.int] m.stack with ⟨f, rest, hl⟩ | ⟨operands, rest, hs, ht⟩
    · exact .inr ⟨f, rest, .widen hl⟩
    · obtain ⟨v, rfl, hv⟩ := List.map_eq_singleton_iff.mp ht
      cases v with
      | int n => exact .inl ⟨_, _, rest, .widen n, hs⟩
      | float x => cases hv
  | print ty =>
    rcases Lacks.lacks_or_has [ty] m.stack with ⟨f, rest, hl⟩ | ⟨operands, rest, hs, ht⟩
    · exact .inr ⟨_, _, .print hl⟩
    · obtain ⟨v, rfl, hv⟩ := List.map_eq_singleton_iff.mp ht
      exact .inl ⟨_, _, rest, .print hv, hs⟩
  | pop =>
    cases hs : m.stack with
    | nil => exact .inr ⟨_, _, .pop hs⟩
    | cons v rest => exact .inl ⟨[v], [], rest, .pop v, rfl⟩

/-! ### Steps -/

/-- What the slots hold after the instruction has taken the operands. -/
def slotsAfter (m : Machine) (operands : List Value) : Instruction → Array (Option Value)
  | .store _ slot => m.slots.setIfInBounds slot operands.head?
  | _ => m.slots

/-- What was printed after the instruction has taken the operands. -/
def outputAfter (m : Machine) (operands : List Value) : Instruction → List Value
  | .print _ => m.output ++ operands
  | _ => m.output

theorem step_of_works (h : Works m i operands results) (hs : m.stack = operands ++ rest) :
    step i m = .ok () ⟨results ++ rest, m.slotsAfter operands i, m.outputAfter operands i⟩ := by
  obtain ⟨stack, slots, output⟩ := m
  cases hs
  cases h with
  | push v => rfl
  | load hs ht => exact next_eq_ok_iff.mp (next_load hs ht)
  | store hv hslot => exact next_eq_ok_iff.mp (next_store (m := ⟨rest, slots, output⟩) hv hslot)
  | @arithmetic operator ty l r v hl hr he =>
    have h := @next_arithmetic ⟨rest, slots, output⟩ operator ty l r hl hr
    rw [he] at h
    exact next_eq_ok_iff.mp h
  | widen n => rfl
  | print hv => exact next_eq_ok_iff.mp (next_print (m := ⟨rest, slots, output⟩) hv)
  | pop v => rfl

/-- An operation takes what operands there are, unless a zero on top stops it before. -/
theorem operation_of_lacks {operator : Operator} {ty : Ty}
    (hz : ¬(operator = .div ∧ m.zeroOnTop ty = true)) (h : Lacks [ty, ty] m.stack f rest) :
    operation operator ty m = .error f { m with stack := rest } := by
  rw [operation_eq, if_neg hz]
  obtain ⟨stack, slots, output⟩ := m
  cases h with
  | missing => cases ty <;> rfl
  | mistyped hr =>
    cases ty with
    | int =>
      obtain ⟨x, rfl⟩ := Value.exists_float hr
      rfl
    | float =>
      obtain ⟨n, rfl⟩ := Value.exists_int hr
      rfl
  | @deeper _ _ r _ _ _ hr h =>
    -- the right operand is of the type, and the left one is missing or of the other type
    subst hr
    cases h with
    | missing => cases r <;> rfl
    | mistyped hl =>
      cases r with
      | int n =>
        obtain ⟨x, rfl⟩ := Value.exists_float hl
        rfl
      | float x =>
        obtain ⟨n, rfl⟩ := Value.exists_int hl
        rfl
    | deeper _ h => cases h

theorem operation_of_overflow {operator : Operator} {l r : Int64}
    (hs : m.stack = .int r :: .int l :: rest)
    (h : operator.evaluate (.int l) (.int r) = .error .overflow) :
    operation operator .int m = .error .overflow { m with stack := rest } := by
  obtain ⟨stack, slots, output⟩ := m
  cases hs
  rw [Operator.evaluate_int, Operator.onWords_eq] at h
  split at h
  · cases h
  · rename_i hd
    have hz : ¬(operator = .div ∧
        zeroOnTop .int ⟨.int r :: .int l :: rest, slots, output⟩ = true) :=
      fun hz => hd ⟨hz.1, of_decide_eq_true hz.2⟩
    rw [operation_eq, if_neg hz]
    refine (wordOperation_pushed ⟨rest, slots, output⟩ operator l r).trans ?_
    cases hw : operator.word? l r with
    | none => rfl
    | some n => rw [hw] at h; cases h

theorem step_of_stops (h : Stops m i f rest) : step i m = .error f { m with stack := rest } := by
  obtain ⟨stack, slots, output⟩ := m
  cases h with
  | unknownSource hs => simp only [step, bind, EStateM.bind, readSlot, hs]
  | otherHeld hs ht =>
    simp only [step, bind, EStateM.bind, readSlot, hs, asType, ht, if_false]
    rfl
  | store h =>
    cases h with
    | missing => rfl
    | mistyped hv =>
      simp only [step, bind, EStateM.bind, pop, asType, hv, if_false]
      rfl
    | deeper _ h => cases h
  | unknownTarget hs hv hslot =>
    cases hs
    have hslot : ¬_ < slots.size := Nat.not_lt.mpr hslot
    simp only [step, bind, EStateM.bind, pop, asType, hv, if_true, pure, EStateM.pure, writeSlot,
      hslot, if_false]
  | zeroDivisor hz =>
    show operation .div _ _ = _
    rw [operation_eq, if_pos ⟨rfl, hz⟩]
  | arithmetic hz h => exact operation_of_lacks hz h
  | overflow hs ho => exact operation_of_overflow hs ho
  | widen h =>
    cases h with
    | missing => rfl
    | mistyped hv =>
      obtain ⟨x, rfl⟩ := Value.exists_float hv
      rfl
    | deeper _ h => cases h
  | print h =>
    cases h with
    | missing => rfl
    | mistyped hv =>
      simp only [step, bind, EStateM.bind, peek, asType, hv, if_false]
      rfl
    | deeper _ h => cases h
  | pop hs =>
    cases hs
    rfl

/-- **All that a step can do if it goes through.** -/
theorem step_eq_ok_iff : step i m = .ok () m' ↔
    ∃ operands results rest, Works m i operands results ∧ m.stack = operands ++ rest ∧
      m' = ⟨results ++ rest, m.slotsAfter operands i, m.outputAfter operands i⟩ := by
  constructor
  · intro h
    rcases works_or_stops m i with ⟨operands, results, rest, hw, hs⟩ | ⟨f, rest, hstop⟩
    · rw [step_of_works hw hs] at h
      cases h
      exact ⟨operands, results, rest, hw, hs, rfl⟩
    · rw [step_of_stops hstop] at h
      cases h
  · rintro ⟨operands, results, rest, hw, hs, rfl⟩
    exact step_of_works hw hs

/-- **All that a step can do if it fails.** -/
theorem step_eq_error_iff : step i m = .error f m' ↔
    ∃ rest, Stops m i f rest ∧ m' = { m with stack := rest } := by
  constructor
  · intro h
    rcases works_or_stops m i with ⟨operands, results, rest, hw, hs⟩ | ⟨f, rest, hstop⟩
    · rw [step_of_works hw hs] at h
      cases h
    · rw [step_of_stops hstop] at h
      cases h
      exact ⟨rest, hstop, rfl⟩
  · rintro ⟨rest, hstop, rfl⟩
    exact step_of_stops hstop

/-! ### What stays as it is -/

/-- At most two values are taken before an instruction fails. -/
theorem Stops.popped (h : Stops m i f rest) :
    ∃ popped, popped.length ≤ 2 ∧ m.stack = popped ++ rest := by
  cases h with
  | unknownSource _ => exact ⟨[], Nat.zero_le _, rfl⟩
  | otherHeld _ _ => exact ⟨[], Nat.zero_le _, rfl⟩
  | store h =>
    obtain ⟨popped, hle, hs⟩ := h.popped
    exact ⟨popped, Nat.le_succ_of_le hle, hs⟩
  | unknownTarget hs _ _ => exact ⟨[_], Nat.le_succ _, hs⟩
  | zeroDivisor _ => exact ⟨[], Nat.zero_le _, rfl⟩
  | arithmetic _ h => exact h.popped
  | overflow hs _ => exact ⟨[_, _], Nat.le_refl _, hs⟩
  | widen h =>
    obtain ⟨popped, hle, hs⟩ := h.popped
    exact ⟨popped, Nat.le_succ_of_le hle, hs⟩
  | print _ => exact ⟨[], Nat.zero_le _, rfl⟩
  | pop hs => exact ⟨[], Nat.zero_le _, hs⟩

theorem slotsAfter_of_ne {slot : Nat} (h : ∀ ty, i ≠ .store ty slot) :
    (m.slotsAfter operands i)[slot]? = m.slots[slot]? := by
  cases i with
  | store ty slot' =>
    have hne : slot' ≠ slot := fun he => h ty (he ▸ rfl)
    exact Array.getElem?_setIfInBounds_ne hne
  | _ => rfl

theorem size_slotsAfter (m : Machine) (operands : List Value) (i : Instruction) :
    (m.slotsAfter operands i).size = m.slots.size := by
  cases i with
  | store ty slot => exact Array.size_setIfInBounds
  | _ => rfl

theorem outputAfter_of_ne (h : ∀ ty, i ≠ .print ty) : m.outputAfter operands i = m.output := by
  cases i with
  | print ty => exact absurd rfl (h ty)
  | _ => rfl

/-- **A step changes only its target.** If it fails, the slots and the output are as before, and the
stack has lost two values at most and gained none. If it goes through, it has put its results in the
place of its operands, with the stack below them as before; a slot is changed only by a store, which
sets the slot that it names to what was on top; and something is printed only by a print, which prints
what is on top and leaves the stack. -/
theorem step_changes_only_its_target (m : Machine) (i : Instruction) :
    (∀ f m', step i m = .error f m' → m'.slots = m.slots ∧ m'.output = m.output ∧
      ∃ popped, popped.length ≤ 2 ∧ m.stack = popped ++ m'.stack) ∧
    ∀ m', step i m = .ok () m' →
      (∃ operands results rest, Works m i operands results ∧ m.stack = operands ++ rest ∧
        m'.stack = results ++ rest) ∧
      m'.slots.size = m.slots.size ∧
      (∀ slot, (∀ ty, i ≠ .store ty slot) → m'.slots[slot]? = m.slots[slot]?) ∧
      (∀ ty slot, i = .store ty slot →
        ∃ v, v.ty = ty ∧ m.stack = v :: m'.stack ∧ m'.slots[slot]? = some (some v)) ∧
      ((∀ ty, i ≠ .print ty) → m'.output = m.output) ∧
      ∀ ty, i = .print ty → m'.stack = m.stack ∧
        ∃ v rest, v.ty = ty ∧ m.stack = v :: rest ∧ m'.output = m.output ++ [v] := by
  constructor
  · intro f m' h
    obtain ⟨rest, hstop, rfl⟩ := step_eq_error_iff.mp h
    exact ⟨rfl, rfl, hstop.popped⟩
  · intro m' h
    obtain ⟨operands, results, rest, hw, hs, rfl⟩ := step_eq_ok_iff.mp h
    refine ⟨⟨operands, results, rest, hw, hs, rfl⟩, size_slotsAfter .., fun slot => slotsAfter_of_ne,
      ?_, outputAfter_of_ne, ?_⟩
    · rintro ty slot rfl
      cases hw with
      | @store _ _ v hv hslot =>
        exact ⟨v, hv, hs, Array.getElem?_setIfInBounds_self_of_lt hslot⟩
    · rintro ty rfl
      cases hw with
      | @print _ v hv => exact ⟨hs.symm, v, rest, hv, hs, rfl⟩

/-- A zero on a double, a slot that was never set and one that was, and one value printed. -/
def busyMachine : Machine :=
  ⟨[.int 0, .float 2.5], #[none, some (.int 4)], [.int 9]⟩

/-- Storing the zero where there is no slot takes it off the stack, and adding takes both values; storing
it where there is a slot leaves the other slot, and printing it leaves it on the stack. -/
theorem step_changes_only_its_target_busy :
    (∃ m', step (.store .int 7) busyMachine = .error (.slotOutOfRange 7) m' ∧
      m'.stack = [.float 2.5] ∧ m'.slots = busyMachine.slots) ∧
    (∃ m', step (.arithmetic .add .int) busyMachine = .error (.typeMismatch .int .float) m' ∧
      m'.stack = [] ∧ m'.output = busyMachine.output) ∧
    (∃ m', step (.store .int 0) busyMachine = .ok () m' ∧ m'.stack = [.float 2.5] ∧
      m'.slots[0]? = some (some (.int 0)) ∧ m'.slots[1]? = busyMachine.slots[1]?) ∧
    ∃ m', step (.print .int) busyMachine = .ok () m' ∧ m'.stack = busyMachine.stack ∧
      m'.output = [.int 9, .int 0] := by
  have houtside := (step_changes_only_its_target busyMachine (.store .int 7)).1 _ _ rfl
  have hsum := (step_changes_only_its_target busyMachine (.arithmetic .add .int)).1 _ _ rfl
  have hinside := (step_changes_only_its_target busyMachine (.store .int 0)).2 _ rfl
  have hprint := (step_changes_only_its_target busyMachine (.print .int)).2 _ rfl
  obtain ⟨-, -, hother, -, -, -⟩ := hinside
  obtain ⟨-, -, -, -, -, hshown⟩ := hprint
  refine ⟨⟨_, rfl, rfl, houtside.1⟩, ⟨_, rfl, rfl, hsum.2.1⟩, ⟨_, rfl, rfl, rfl, ?_⟩,
    ⟨_, rfl, (hshown _ rfl).1, rfl⟩⟩
  exact hother 1 fun ty h => by cases h

end Machine

end DeskCalc
