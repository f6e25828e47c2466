import DeskCalc.Proofs.Machine.Effect

/-!
Machines of which only the types are kept. An outline has the types of the values on the stack, in the
slots and in the output, and instructions take it from one to the next by types alone. Main statement:
unless arithmetic stops the machine, its run comes to what the run of the outline comes to, and so the
constants of a program decide nothing but values and faults of arithmetic
(`structural_errors_depend_on_types`).
-/

namespace DeskCalc

/-- The types of the values on the stack, the top one first, of those in the slots, and of those that
were printed. -/
structure Outline where
  stack : List Ty
  slots : Array (Option Ty)
  output : List Ty
  deriving Repr, DecidableEq

namespace Outline

/-! ### Runs on types -/

/-- The stack below operands of the types, the first of which is on top. -/
def take : List Ty → List Ty → Except Fault (List Ty)
  | [], stack => .ok stack
  | _ :: _, [] => .error .stackUnderflow
  | ty :: types, found :: stack =>
    if found = ty then take types stack else .error (.typeMismatch ty found)

/-- The outline after an instruction. A slot that was never set has the type that is asked for. -/
def next (o : Outline) : Instruction → Except Fault Outline
  | .push v => .ok { o with stack := v.ty :: o.stack }
  | .load ty slot =>
    match o.slots[slot]? with
    | none => .error (.slotOutOfRange slot)
    | some held =>
      if held.getD ty = ty then .ok { o with stack := ty :: o.stack }
      else .error (.typeMismatch ty (held.getD ty))
  | .store ty slot => do
    let stack ← take [ty] o.stack
    if slot < o.slots.size then
      return { o with stack, slots := o.slots.setIfInBounds slot (some ty) }
    else throw (.slotOutOfRange slot)
  | .arithmetic _ ty => (take [ty, ty] o.stack).map fun stack => { o with stack := ty :: stack }
  | .widen => (take [.int] o.stack).map fun stack => { o with stack := .float :: stack }
  | .print ty => (take [ty] o.stack).map fun _ => { o with output := o.output ++ [ty] }
  | .pop =>
    match o.stack with
    | [] => .error .stackUnderflow
    | _ :: stack => .ok { o with stack }

def execute : List Instruction → Nat → Outline → Except RuntimeError Outline
  | [], _, o => .ok o
  | i :: code, number, o =>
    match o.next i with
    | .ok o => execute code (number + 1) o
    | .error f => .error ⟨f, number⟩

def loaded (p : Bytecode) : Outline :=
  ⟨[], Array.replicate p.slots none, []⟩

def run (p : Bytecode) : Except RuntimeError Outline :=
  execute p.instructions 0 (loaded p)

variable {types : List Ty} {stack rest : List Value} {f : Fault}

theorem take_of_has (operands rest : List Value) :
    take (operands.map Value.ty) ((operands ++ rest).map Value.ty) = .ok (rest.map Value.ty) := by
  induction operands with
  | nil => rfl
  | cons v operands ih => simpa [take] using ih

theorem take_of_lacks (h : Lacks types stack f rest) :
    take types (stack.map Value.ty) = .error f := by
  induction h with
  | missing => rfl
  | mistyped hv => simp [take, hv]
  | deeper hv _ ih => simpa [take, hv] using ih

end Outline

/-! ### Constants -/

/-- The instruction with its constant, if it has one, set to zero. -/
def Instruction.outline : Instruction → Instruction
  | push v => push (.zero v.ty)
  | i => i

/-- The program with its constants set to zero: programs that differ in constants only have the same. -/
def Bytecode.outline (p : Bytecode) : Bytecode :=
  ⟨p.slots, p.instructions.map Instruction.outline⟩

namespace Outline

theorem next_outline (o : Outline) (i : Instruction) : o.next i.outline = o.next i := by
  cases i with
  | push v => simp only [Instruction.outline, next, Value.ty_zero]
  | _ => rfl

theorem execute_outline (code : List Instruction) (number : Nat) (o : Outline) :
    execute (code.map Instruction.outline) number o = execute code number o := by
  induction code generalizing number o with
  | nil => rfl
  | cons i code ih =>
    simp only [List.map_cons, execute, next_outline]
    cases o.next i with
    | ok o => exact ih (number + 1) o
    | error f => rfl

/-- A run on types does not look at constants. -/
theorem run_outline (p : Bytecode) : run p.outline = run p :=
  execute_outline p.instructions 0 (loaded p)

end Outline

namespace Machine

variable {m m' : Machine} {i : Instruction} {f : Fault} {operands results rest : List Value}

/-- The types of what is in the machine. -/
def outline (m : Machine) : Outline :=
  ⟨m.stack.map Value.ty, m.slots.map (Option.map Value.ty), m.output.map Value.ty⟩

theorem outline_loaded (p : Bytecode) : (loaded p).outline = Outline.loaded p := by
  simp [outline, loaded, Outline.loaded]

/-! ### One instruction -/

/-- The type of what a slot is read as. -/
theorem ty_read (held : Option Value) (ty : Ty) :
    (held.map Value.ty).getD ty = (held.getD (.zero ty)).ty := by
  cases held with
  | none => exact (Value.ty_zero ty).symm
  | some v => rfl

theorem outline_slots (m : Machine) (slot : Nat) :
    m.outline.slots[slot]? = m.slots[slot]?.map (Option.map Value.ty) :=
  Array.getElem?_map

theorem outline_next_of_works (h : Works m i operands results) (hs : m.stack = operands ++ rest) :
    m.outline.next i =
      .ok (outline ⟨results ++ rest, m.slotsAfter operands i, m.outputAfter operands i⟩) := by
  have hstack : m.outline.stack = (operands ++ rest).map Value.ty := congrArg (List.map _) hs
  have htake := Outline.take_of_has operands rest
  rw [← hstack] at htake
  cases h with
  | push v =>
    rw [Outline.next, hstack]
    rfl
  | @load ty slot held hheld ht =>
    simp only [Outline.next, outline_slots, hheld, Option.map_some, ty_read, ht, if_true, hstack]
    simp [outline, slotsAfter, outputAfter, ht]
  | @store ty slot v hv hslot =>
    subst hv
    have hsize : slot < m.outline.slots.size := by simpa [outline] using hslot
    rw [List.map_singleton] at htake
    simp only [Outline.next, htake, bind, Except.bind, hsize, if_true]
    simp [outline, slotsAfter, outputAfter, Array.map_setIfInBounds, pure, Except.pure]
  | @arithmetic operator ty l r v hl hr he =>
    have hv : v.ty = ty := by
      rw [Operator.ty_evaluate he, hl, hr]
      cases ty <;> rfl
    rw [List.map_cons, List.map_singleton, hl, hr] at htake
    rw [Outline.next, htake, ← hv]
    rfl
  | widen n =>
    have htake : Outline.take [.int] m.outline.stack = .ok (rest.map Value.ty) := htake
    rw [Outline.next, htake]
    rfl
  | @print ty v hv =>
    rw [List.map_singleton, hv] at htake
    rw [Outline.next, htake]
    simp [Except.map, outline, hs, hv, slotsAfter, outputAfter]
  | pop v =>
    rw [Outline.next, hstack]
    rfl

theorem take_outline_of_lacks {types : List Ty} (h : Lacks types m.stack f rest) :
    Outline.take types m.outline.stack = .error f :=
  Outline.take_of_lacks h

theorem outline_next_of_stops (h : Stops m i f rest) (hf : ¬f.IsArithmetic) :
    m.outline.next i = .error f := by
  cases h with
  | unknownSource hs => simp [Outline.next, outline_slots, hs]
  | otherHeld hs ht => simp [Outline.next, outline_slots, hs, ty_read, ht]
  | store hl =>
    rw [Outline.next, take_outline_of_lacks hl]
    rfl
  | @unknownTarget ty slot v rest hs hv hslot =>
    have htake : Outline.take [v.ty] m.outline.stack = .ok (rest.map Value.ty) := by
      rw [outline, hs]
      exact Outline.take_of_has [v] rest
    have hsize : ¬slot < m.outline.slots.size := by simpa [outline] using hslot
    rw [Outline.next, ← hv, htake]
    exact if_neg hsize
  | zeroDivisor => exact absurd (.inl rfl) hf
  | arithmetic _ hl =>
    rw [Outline.next, take_outline_of_lacks hl]
    rfl
  | overflow => exact absurd (.inr rfl) hf
  | widen hl =>
    rw [Outline.next, take_outline_of_lacks hl]
    rfl
  | print hl =>
    rw [Outline.next, take_outline_of_lacks hl]
    rfl
  | pop hs =>
    have hstack : m.outline.stack = [] := by rw [outline, hs]; rfl
    rw [Outline.next, hstack]

theorem outline_of_step_ok (h : step i m = .ok () m') : m.outline.next i = .ok m'.outline := by
  obtain ⟨operands, results, rest, hw, hs, rfl⟩ := step_eq_ok_iff.mp h
  exact outline_next_of_works hw hs

theorem outline_of_step_error (h : step i m = .error f m') (hf : ¬f.IsArithmetic) :
    m.outline.next i = .error f := by
  obtain ⟨rest, hstop, -⟩ := step_eq_error_iff.mp h
  exact outline_next_of_stops hstop hf

/-! ### Runs -/

variable {code : List Instruction} {number : Nat} {e : RuntimeError}

theorem outline_of_execute_ok (h : execute code number m = .ok () m') :
    Outline.execute code number m.outline = .ok m'.outline := by
  induction code generalizing number m with
  | nil =>
    cases h
    rfl
  | cons i code ih =>
    obtain ⟨m₁, hs, hrest⟩ := execute_cons_eq_ok_iff.mp h
    rw [Outline.execute, outline_of_step_ok hs]
    exact ih hrest

theorem outline_of_execute_error (h : execute code number m = .error e m')
    (hf : ¬e.fault.IsArithmetic) : Outline.execute code number m.outline = .error e := by
  induction code generalizing number m with
  | nil => cases h
  | cons i code ih =>
    rcases execute_cons_eq_error_iff.mp h with ⟨f, hs, rfl⟩ | ⟨m₁, hs, hrest⟩
    · rw [Outline.execute, outline_of_step_error hs hf]
    · rw [Outline.execute, outline_of_step_ok hs]
      exact ih hrest

/-- The instructions before the one that stops the machine go through. -/
theorem exists_before_of_execute (h : execute code number m = .error e m') :
    ∃ k m₁, k < code.length ∧ e.instruction = number + k ∧
      execute (code.take k) number m = .ok () m₁ := by
  induction code generalizing number m with
  | nil => cases h
  | cons i code ih =>
    rcases execute_cons_eq_error_iff.mp h with ⟨f, -, rfl⟩ | ⟨m₁, hs, hrest⟩
    · exact ⟨0, m, Nat.succ_pos _, rfl, rfl⟩
    · obtain ⟨k, m₂, hk, he, hbefore⟩ := ih hrest
      refine ⟨k + 1, m₂, Nat.succ_lt_succ hk, by omega, ?_⟩
      rw [List.take_succ_cons]
      exact execute_cons_eq_ok_iff.mpr ⟨m₁, hs, hbefore⟩

/-- What comes of a run, in outline: the types of what is left and of what was printed, or the error. -/
def outcome : EStateM.Result RuntimeError Machine (List Value) → Except RuntimeError Outline
  | .ok printed m => .ok { m.outline with output := printed.map Value.ty }
  | .error e _ => .error e

/-- Division by zero or an overflow stopped the run. -/
def EndsInArithmetic (r : EStateM.Result RuntimeError Machine (List Value)) : Prop :=
  ∃ e m, r = .error e m ∧ e.fault.IsArithmetic

theorem outcome_run {p : Bytecode} (h : ¬EndsInArithmetic (run p m)) :
    outcome (run p m) = Outline.run p := by
  unfold run at h ⊢
  rw [Outline.run, ← outline_loaded]
  cases hr : execute p.instructions 0 (loaded p) with
  | ok u m' =>
    rw [outline_of_execute_ok hr]
    rfl
  | error e m' =>
    rw [hr] at h
    rw [outline_of_execute_error hr fun hf => h ⟨e, m', rfl, hf⟩]
    rfl

/-- The outline goes through all instructions before one at which arithmetic stops the machine. -/
theorem outline_run_before {p : Bytecode} (h : run p m = .error e m') :
    e.instruction < p.instructions.length ∧
      ∃ o, Outline.run ⟨p.slots, p.instructions.take e.instruction⟩ = .ok o := by
  unfold run at h
  cases hr : execute p.instructions 0 (loaded p) with
  | ok u m₁ =>
    rw [hr] at h
    cases h
  | error e₁ m₁ =>
    rw [hr] at h
    cases h
    obtain ⟨k, m₂, hk, he, hbefore⟩ := exists_before_of_execute hr
    obtain rfl : e.instruction = k := by omega
    refine ⟨hk, m₂.outline, ?_⟩
    have hloaded : Outline.loaded ⟨p.slots, p.instructions.take e.instruction⟩ =
        (loaded p).outline := (outline_loaded p).symm
    rw [Outline.run, hloaded]
    exact outline_of_execute_ok hbefore

/-- **Structural errors depend on types alone.** If arithmetic does not stop a run, it comes to what the
run on types comes to: both go through, with the same types on the stack, in the slots and in the output,
or both stop at the same instruction with the same fault. If arithmetic stops a run, the run on types
goes through all instructions before that. So programs that differ in constants only, and are not stopped
by arithmetic, come to the same in types and faults. -/
theorem structural_errors_depend_on_types (p : Bytecode) (m : Machine) :
    (¬EndsInArithmetic (run p m) → outcome (run p m) = Outline.run p) ∧
    (∀ e m', run p m = .error e m' → e.fault.IsArithmetic →
      e.instruction < p.instructions.length ∧
        ∃ o, Outline.run ⟨p.slots, p.instructions.take e.instruction⟩ = .ok o) ∧
    ∀ q m', p.outline = q.outline → ¬EndsInArithmetic (run p m) → ¬EndsInArithmetic (run q m') →
      outcome (run p m) = outcome (run q m') := by
  refine ⟨outcome_run, fun e m' h _ => outline_run_before h, fun q m' hpq hp hq => ?_⟩
  rw [outcome_run hp, outcome_run hq, ← Outline.run_outline p, ← Outline.run_outline q, hpq]

/-- A slot that was never set is read as a double and then set to the word, so that it cannot be read as
a double again. -/
def misread (n : Int64) : Bytecode :=
  ⟨1, [.load .float 0, .push (.int n), .store .int 0, .load .float 0]⟩

theorem not_endsInArithmetic_misread (n : Int64) : ¬EndsInArithmetic (run (misread n) fresh) := by
  rintro ⟨e, m, h, hf⟩
  have hrun : ∃ m, run (misread n) fresh = .error ⟨.typeMismatch .float .int, 3⟩ m := ⟨_, rfl⟩
  obtain ⟨m', hrun⟩ := hrun
  rw [hrun] at h
  cases h
  rcases hf with hf | hf <;> cases hf

/-- Whatever the word is, reading the slot again fails in the same way. A quotient by zero stops the
machine at instruction `2`, and the run on types goes through the two instructions before. -/
theorem structural_errors_depend_on_types_misread :
    (misread 4).outline = (misread 5).outline ∧
    ¬EndsInArithmetic (run (misread 4) fresh) ∧ ¬EndsInArithmetic (run (misread 5) fresh) ∧
    outcome (run (misread 4) fresh) = outcome (run (misread 5) fresh) ∧
    Outline.run (misread 4) = .error ⟨.typeMismatch .float .int, 3⟩ ∧
    ∃ m, run ⟨0, [.push (.int 1), .push (.int 0), .arithmetic .div .int]⟩ fresh =
        .error ⟨.divisionByZero, 2⟩ m ∧
      ∃ o, Outline.run ⟨0, [.push (.int 1), .push (.int 0)]⟩ = .ok o := by
  have h₄ := not_endsInArithmetic_misread 4
  have h₅ := not_endsInArithmetic_misread 5
  obtain ⟨hrun, -, hsame⟩ := structural_errors_depend_on_types (misread 4) fresh
  have hquotient := (structural_errors_depend_on_types
    ⟨0, [.push (.int 1), .push (.int 0), .arithmetic .div .int]⟩ fresh).2.1 _ _ rfl (.inl rfl)
  exact ⟨rfl, h₄, h₅, hsame (misread 5) fresh rfl h₄ h₅, (hrun h₄).symm, _, rfl, hquotient.2⟩

end Machine

end DeskCalc
