import DeskCalc.Proofs.Code.Emission

/-!
The names of a generator and the names of a checker. A generator knows a slot for every name and a
checker knows none; without the slots both know the same names, with the same types.
-/

namespace DeskCalc

/-! ### Names without slots -/

def Symbol.bare (s : Symbol) : Symbol :=
  ⟨s.ty, none⟩

namespace Scopes

def bare (s : Scopes) : Scopes :=
  ⟨s.inner.map (Prod.map id Symbol.bare), s.outer.map (List.map (Prod.map id Symbol.bare))⟩

theorem lookup_map_bare (scope : Scope) (name : String) :
    (scope.map (Prod.map id Symbol.bare)).lookup name = (scope.lookup name).map Symbol.bare := by
  induction scope with
  | nil => rfl
  | cons entry scope ih =>
    obtain ⟨n, symbol⟩ := entry
    simp only [List.map_cons, Prod.map_apply, id_eq, List.lookup_cons, ih]
    cases name == n <;> rfl

theorem entries_bare (s : Scopes) :
    s.bare.entries = s.entries.map (Prod.map id Symbol.bare) := by
  simp [entries, bare, List.map_flatten]

theorem lookup_bare (s : Scopes) (name : String) :
    s.bare.lookup name = (s.lookup name).map Symbol.bare := by
  rw [lookup_eq_entries, lookup_eq_entries, entries_bare, lookup_map_bare]

theorem lookup_bare_of {s : Scopes} {name : String} {ty : Ty} {slot? : Option Nat}
    (h : s.lookup name = some ⟨ty, slot?⟩) : s.bare.lookup name = some ⟨ty, none⟩ := by
  rw [lookup_bare, h]
  rfl

theorem inner_lookup_bare {s : Scopes} {name : String} :
    s.bare.inner.lookup name = none ↔ s.inner.lookup name = none := by
  simp [bare, lookup_map_bare]

theorem bare_enter (s : Scopes) : s.enter.bare = s.bare.enter := rfl

theorem bare_leave (s : Scopes) : s.leave.bare = s.bare.leave := by
  obtain ⟨inner, outer⟩ := s
  cases outer <;> rfl

/-! ### Names with slots -/

/-- Every name in scope has a slot. -/
def Bound (s : Scopes) : Prop := ∀ entry ∈ s.entries, entry.2.slot?.isSome

theorem bound_start : start.Bound := by
  intro entry h
  cases h

theorem Bound.add {s : Scopes} (h : s.Bound) (name : String) (ty : Ty) (slot : Nat) :
    (s.add name ⟨ty, some slot⟩).Bound := by
  intro entry he
  rw [entries_add] at he
  rcases List.mem_cons.mp he with rfl | he
  · rfl
  · exact h entry he

theorem Bound.enter {s : Scopes} (h : s.Bound) : s.enter.Bound := h

theorem Bound.leave {s : Scopes} (h : s.Bound) : s.leave.Bound :=
  fun entry he => h entry (mem_entries_leave he)

/-- A name that is known without its slot has one. -/
theorem Bound.lookup {s : Scopes} (h : s.Bound) {name : String} {found : Symbol}
    (hl : s.bare.lookup name = some found) :
    ∃ slot, s.lookup name = some ⟨found.ty, some slot⟩ := by
  rw [lookup_bare] at hl
  obtain ⟨⟨ty, slot?⟩, hs, rfl⟩ := Option.map_eq_some_iff.mp hl
  obtain ⟨slot, hslot⟩ := Option.isSome_iff_exists.mp (h _ (mem_entries_of_lookup hs))
  exact ⟨slot, hslot ▸ hs⟩

end Scopes

/-- A name that was just declared stands for the slot that was just given. -/
theorem Generator.lookup_allocated (g : Generator) (name : String) (ty : Ty) :
    (g.allocated name ty).scopes.lookup name = some ⟨ty, some g.slotsUsed⟩ :=
  Scopes.lookup_add_self ..

end DeskCalc
