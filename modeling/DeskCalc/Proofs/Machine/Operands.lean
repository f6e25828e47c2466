import DeskCalc.Proofs.Machine.Effect

/-!
Arithmetic and its operands. Six of the eight operations look at both operands before they compute, the
upper one first; so do the two divisions, unless the upper operand is a zero and the lower one is
missing or of the other type: then the zero is reported and the lower operand is not
(`operands_checked_first_iff`).
-/

namespace DeskCalc

theorem not_lacks (operands stack : List Value) :
    ¬∃ f rest, Lacks (operands.map Value.ty) (operands ++ stack) f rest := by
  rintro ⟨f, rest, h⟩
  induction operands with
  | nil => cases h
  | cons v operands ih =>
    cases h with
    | mistyped hv => exact hv rfl
    | deeper _ h => exact ih h

namespace Machine

variable {m m' : Machine} {operator : Operator} {ty : Ty} {f : Fault}

/-- The operation answers for its operands before it computes: it stops with what they lack, and it stops
in arithmetic only if both are there. -/
structure ChecksOperands (m : Machine) (operator : Operator) (ty : Ty) : Prop where
  wanting : ∀ f m', ¬f.IsArithmetic → (step (.arithmetic operator ty) m = .error f m' ↔
    ∃ rest, Lacks [ty, ty] m.stack f rest ∧ m' = { m with stack := rest })
  present : ∀ f m', f.IsArithmetic → step (.arithmetic operator ty) m = .error f m' →
    ∃ l r rest, m.stack = r :: l :: rest ∧ l.ty = ty ∧ r.ty = ty

/-- A zero of the type lies on top of the stack, and under it no operand of the type. -/
def StrayZero (m : Machine) (ty : Ty) : Prop :=
  m.zeroOnTop ty = true ∧ ∃ f rest, Lacks [ty, ty] m.stack f rest

theorem has_of_not_lacks (h : ¬∃ f rest, Lacks [ty, ty] m.stack f rest) :
    ∃ l r rest, m.stack = r :: l :: rest ∧ l.ty = ty ∧ r.ty = ty := by
  rcases Lacks.lacks_or_has [ty, ty] m.stack with hl | ⟨operands, rest, hs, ht⟩
  · exact absurd hl h
  · obtain ⟨r, operands, rfl, hr, ht⟩ := List.map_eq_cons_iff.mp ht
    obtain ⟨l, rfl, hl⟩ := List.map_eq_singleton_iff.mp ht
    exact ⟨l, r, rest, hs, hl, hr⟩

/-- A division by a stray zero does not look for its other operand. -/
theorem StrayZero.step_div (h : m.StrayZero ty) :
    step (.arithmetic .div ty) m = .error .divisionByZero m :=
  step_of_stops (.zeroDivisor h.1)

theorem checksOperands_of_not_strayZero (h : ¬(operator = .div ∧ m.StrayZero ty)) :
    m.ChecksOperands operator ty where
  wanting f m' hf := by
    rw [step_eq_error_iff]
    refine exists_congr fun rest => and_congr_left fun _ => ?_
    constructor
    · intro hstop
      cases hstop with
      | zeroDivisor => exact absurd (.inl rfl) hf
      | arithmetic _ hl => exact hl
      | overflow => exact absurd (.inr rfl) hf
    · intro hl
      exact .arithmetic (fun hz => h ⟨hz.1, hz.2, f, rest, hl⟩) hl
  present f m' hf hstep := by
    obtain ⟨rest, hstop, -⟩ := step_eq_error_iff.mp hstep
    cases hstop with
    | zeroDivisor hz => exact has_of_not_lacks fun hl => h ⟨rfl, hz, hl⟩
    | arithmetic _ hl => exact absurd hf hl.not_isArithmetic
    | overflow hs _ => exact ⟨_, _, _, hs, rfl, rfl⟩

theorem not_checksOperands_of_strayZero (h : m.StrayZero ty) : ¬m.ChecksOperands .div ty := by
  intro hc
  obtain ⟨l, r, rest, hs, hl, hr⟩ := hc.present _ _ (.inl rfl) h.step_div
  have htypes : [r, l].map Value.ty = [ty, ty] := by rw [List.map_cons, List.map_singleton, hl, hr]
  obtain ⟨-, hlacks⟩ := h
  rw [hs, ← htypes] at hlacks
  exact not_lacks [r, l] rest hlacks

/-- **Operands are checked before arithmetic, but for one case.** An operation stops with what its
operands lack, the upper one looked at first, and stops in arithmetic only if both are there, except
that a division with a zero on top and no operand under it stops for the zero. So, with this exception
and no other, a division stops for its operands exactly where a subtraction does. -/
theorem operands_checked_first_iff (m : Machine) (operator : Operator) (ty : Ty) :
    (m.ChecksOperands operator ty ↔ ¬(operator = .div ∧ m.StrayZero ty)) ∧
    (m.StrayZero ty → step (.arithmetic .div ty) m = .error .divisionByZero m) ∧
    ((∀ f m', ¬f.IsArithmetic → (step (.arithmetic .div ty) m = .error f m' ↔
      step (.arithmetic .sub ty) m = .error f m')) ↔ ¬m.StrayZero ty) := by
  have hsub : m.ChecksOperands .sub ty := checksOperands_of_not_strayZero fun h => by cases h.1
  refine ⟨⟨?_, checksOperands_of_not_strayZero⟩, StrayZero.step_div, ?_, ?_⟩
  · rintro hc ⟨rfl, hz⟩
    exact not_checksOperands_of_strayZero hz hc
  · intro hsame hz
    obtain ⟨-, f, rest, hl⟩ := id hz
    -- the subtraction stops with what is lacking, the division with the zero
    have hf := (hsame f _ hl.not_isArithmetic).mpr
      ((hsub.wanting f _ hl.not_isArithmetic).mpr ⟨rest, hl, rfl⟩)
    rw [hz.step_div] at hf
    injection hf with hfault
    exact hl.not_isArithmetic (.inl hfault.symm)
  · intro hz f m' hf
    have hdiv : m.ChecksOperands .div ty := checksOperands_of_not_strayZero fun h => hz h.2
    rw [hdiv.wanting f m' hf, hsub.wanting f m' hf]

/-- A word zero on a double is stray for a division of words, which reports the zero and not the double;
on another word it is not, and the division checks its operands. -/
theorem operands_checked_first_iff_zero_on_double :
    StrayZero ⟨[.int 0, .float 1.5], #[], []⟩ .int ∧
    step (.arithmetic .div .int) ⟨[.int 0, .float 1.5], #[], []⟩ =
      .error .divisionByZero ⟨[.int 0, .float 1.5], #[], []⟩ ∧
    ¬ChecksOperands ⟨[.int 0, .float 1.5], #[], []⟩ .div .int ∧
    ChecksOperands ⟨[.int 0, .int 7], #[], []⟩ .div .int := by
  have hstray : StrayZero ⟨[.int 0, .float 1.5], #[], []⟩ .int :=
    ⟨by decide, _, _, .deeper rfl (.mistyped (by decide))⟩
  obtain ⟨hchecks, hzero, -⟩ := operands_checked_first_iff ⟨[.int 0, .float 1.5], #[], []⟩ .div .int
  refine ⟨hstray, hzero hstray, fun h => hchecks.mp h ⟨rfl, hstray⟩, ?_⟩
  refine (operands_checked_first_iff ⟨[.int 0, .int 7], #[], []⟩ .div .int).1.mpr ?_
  exact fun h => not_lacks [.int 0, .int 7] [] h.2.2

/-- A division of words with nothing but a zero on the stack reports the zero, where a subtraction
reports that a value is missing. -/
theorem lone_zero_divides :
    (∃ m, run ⟨0, [.push (.int 0), .arithmetic .div .int]⟩ fresh = .error ⟨.divisionByZero, 1⟩ m) ∧
    (∃ m, run ⟨0, [.push (.int 0), .arithmetic .sub .int]⟩ fresh = .error ⟨.stackUnderflow, 1⟩ m) ∧
    ¬ChecksOperands ⟨[.int 0], #[], []⟩ .div .int := by
  refine ⟨⟨_, rfl⟩, ⟨_, rfl⟩, not_checksOperands_of_strayZero ?_⟩
  exact ⟨by decide, _, _, .deeper rfl .missing⟩

end Machine

end DeskCalc
