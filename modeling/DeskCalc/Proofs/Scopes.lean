import DeskCalc.Scopes

/-!
Names in scope: what declaring a name and leaving a scope make of them, and when a name is found.
-/

namespace DeskCalc

namespace Scopes

/-! ### Names that come and go -/

/-- The scopes with a name added to the innermost one. -/
def add (s : Scopes) (name : String) (symbol : Symbol) : Scopes :=
  { s with inner := (name, symbol) :: s.inner }

/-- The scopes after the innermost one was left, if it is not the only one. -/
def leave (s : Scopes) : Scopes :=
  s.exit?.getD s

theorem depth_leave {s : Scopes} (h : s.outer ≠ []) : s.leave.depth + 1 = s.depth := by
  obtain ⟨inner, outer⟩ := s
  cases outer with
  | nil => exact absurd rfl h
  | cons scope outer => rfl

theorem declare_eq_ok_iff {s s' : Scopes} {name file : String} {symbol : Symbol} {line : Nat} :
    s.declare name symbol line file = .ok s' ↔
      s.inner.lookup name = none ∧ s' = s.add name symbol := by
  unfold declare
  split
  · rename_i h
    simp [h]
  · rename_i h
    simp [h, add, eq_comm]

theorem fetch_eq_ok_iff {s : Scopes} {name file : String} {symbol : Symbol} {line : Nat} :
    s.fetch name line file = .ok symbol ↔ s.lookup name = some symbol := by
  unfold fetch
  split <;> simp_all

theorem fetch_eq_error_iff {s : Scopes} {name file : String} {line : Nat} {d : Diagnostic} :
    s.fetch name line file = .error d ↔
      s.lookup name = none ∧ d = ⟨.variableNotDeclared name, line, file⟩ := by
  unfold fetch
  cases s.lookup name <;> simp [eq_comm]

/-! ### All names in scope -/

/-- All names in scope, the innermost first; an outer one may be hidden by an inner one. -/
def entries (s : Scopes) : Scope :=
  (s.inner :: s.outer).flatten

theorem lookup_eq_entries (s : Scopes) (name : String) : s.lookup name = s.entries.lookup name := by
  have h : ∀ scopes : List Scope,
      scopes.findSome? (·.lookup name) = scopes.flatten.lookup name := by
    intro scopes
    induction scopes with
    | nil => rfl
    | cons scope scopes ih =>
      rw [List.flatten_cons, List.lookup_append, List.findSome?_cons, ih]
      cases scope.lookup name <;> rfl
  exact h _

theorem mem_entries_of_lookup {s : Scopes} {name : String} {symbol : Symbol}
    (h : s.lookup name = some symbol) : (name, symbol) ∈ s.entries := by
  rw [lookup_eq_entries] at h
  obtain ⟨l₁, l₂, h, -⟩ := List.lookup_eq_some_iff.mp h
  rw [h]
  simp

theorem entries_add (s : Scopes) (name : String) (symbol : Symbol) :
    (s.add name symbol).entries = (name, symbol) :: s.entries := rfl

theorem mem_entries_leave {s : Scopes} {entry : String × Symbol} (h : entry ∈ s.leave.entries) :
    entry ∈ s.entries := by
  obtain ⟨inner, outer⟩ := s
  cases outer with
  | nil => exact h
  | cons scope outer => exact List.mem_append_right _ h

theorem lookup_add (s : Scopes) (name : String) (symbol : Symbol) (name' : String) :
    (s.add name symbol).lookup name' = if name' = name then some symbol else s.lookup name' := by
  rw [lookup_eq_entries, entries_add, List.lookup_cons, lookup_eq_entries]
  by_cases h : name' = name
  · simp [h]
  · rw [if_neg h, beq_eq_false_iff_ne.mpr h]

theorem lookup_add_self (s : Scopes) (name : String) (symbol : Symbol) :
    (s.add name symbol).lookup name = some symbol := by
  rw [lookup_add, if_pos rfl]

end Scopes

end DeskCalc
