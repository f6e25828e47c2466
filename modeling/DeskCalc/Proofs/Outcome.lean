/-!
Results that are a value or an error: when a result of several steps is a value, and when two
computations with a state come to the same in other terms.
-/

namespace DeskCalc

variable {ε α β : Type}

theorem Except.map_eq_ok_iff {x : Except ε α} {f : α → β} {b : β} :
    x.map f = .ok b ↔ ∃ a, x = .ok a ∧ f a = b := by
  cases x with
  | error d => simp [Except.map]
  | ok a => simp [Except.map]

theorem Except.bind_eq_ok_iff {x : Except ε α} {f : α → Except ε β} {b : β} :
    x >>= f = .ok b ↔ ∃ a, x = .ok a ∧ f a = .ok b := by
  cases x with
  | error d => simp [bind, Except.bind]
  | ok a => simp [bind, Except.bind]

theorem Except.map_eq_error_iff {x : Except ε α} {f : α → β} {d : ε} :
    x.map f = .error d ↔ x = .error d := by
  cases x with
  | error d => simp [Except.map]
  | ok a => simp [Except.map]

theorem Except.bind_eq_error_iff {x : Except ε α} {f : α → Except ε β} {d : ε} :
    x >>= f = .error d ↔ x = .error d ∨ ∃ a, x = .ok a ∧ f a = .error d := by
  cases x with
  | error d => simp [bind, Except.bind]
  | ok a => simp [bind, Except.bind]

theorem Except.exists_of_isOk {x : Except ε α} (h : x.isOk = true) : ∃ a, x = .ok a := by
  cases x with
  | error d => cases h
  | ok a => exact ⟨a, rfl⟩

theorem Except.exists_of_any {x : Except ε α} {p : α → Bool} (h : x.toOption.any p = true) :
    ∃ a, x = .ok a ∧ p a = true := by
  cases x with
  | error d => cases h
  | ok a => exact ⟨a, rfl, h⟩

theorem Except.eq_ok_of_toOption {x : Except ε α} {a : α} (h : x.toOption = some a) :
    x = .ok a := by
  cases x with
  | error d => cases h
  | ok b => exact congrArg Except.ok (Option.some.inj h)

def Except.failure? : Except ε α → Option ε
  | .error d => some d
  | .ok _ => none

theorem Except.eq_error_of_failure? {x : Except ε α} {d : ε} (h : Except.failure? x = some d) :
    x = .error d := by
  cases x with
  | error e => exact congrArg Except.error (Option.some.inj h)
  | ok a => cases h

/-! ### Results that leave a state -/

section

variable {σ τ δ γ η : Type}

def stateOf : EStateM.Result ε σ α → σ
  | .ok _ s => s
  | .error _ s => s

/-- The result in other terms: with another value, or another error, and another state. -/
def translated (f : α → β) (e : ε → δ) (φ : σ → τ) :
    EStateM.Result ε σ α → EStateM.Result δ τ β
  | .ok a s => .ok (f a) (φ s)
  | .error d s => .error (e d) (φ s)

variable {f : α → β} {h : γ → η} {e : ε → δ} {φ : σ → τ} {x : EStateM ε σ α} {y : EStateM δ τ β}
  {k : α → EStateM ε σ γ} {l : β → EStateM δ τ η} {s : σ}

/-- Two steps come to the same in other terms if the first does, and the second does after it. -/
theorem bind_translated (hx : y (φ s) = translated f e φ (x s))
    (hk : ∀ a s', x s = .ok a s' → l (f a) (φ s') = translated h e φ (k a s')) :
    (y >>= l) (φ s) = translated h e φ ((x >>= k) s) := by
  show EStateM.bind y l (φ s) = translated h e φ (EStateM.bind x k s)
  unfold EStateM.bind
  rw [hx]
  cases hr : x s with
  | error d s' => rfl
  | ok a s' => exact hk a s' hr

/-- A value of two steps comes from a value of the first. -/
theorem bind_eq_ok_iff {c : γ} {s'' : σ} :
    (x >>= k) s = .ok c s'' ↔ ∃ a s', x s = .ok a s' ∧ k a s' = .ok c s'' := by
  show EStateM.bind x k s = _ ↔ _
  unfold EStateM.bind
  cases hx : x s with
  | ok a s' =>
    constructor
    · exact fun h => ⟨a, s', rfl, h⟩
    · rintro ⟨_, _, hx', h⟩
      cases hx'
      exact h
  | error d s' => simp

/-- What holds of the state after a first step, and is kept by the second, holds after both. -/
theorem stateOf_bind {I : σ → Prop} (hx : I (stateOf (x s)))
    (hk : ∀ a s', I s' → I (stateOf (k a s'))) : I (stateOf ((x >>= k) s)) := by
  show I (stateOf (EStateM.bind x k s))
  unfold EStateM.bind
  cases hr : x s with
  | error d s' =>
    rw [hr] at hx
    exact hx
  | ok a s' =>
    rw [hr] at hx
    exact hk a s' hx

end

end DeskCalc
