import DeskCalc.Proofs.Scopes
import Mathlib.Data.List.Nodup

/-!
Histories of scopes. Entering a scope, leaving one and giving a slot to a variable are told in the order
in which they happened; a declaration is open as long as its scope was not left. What a history comes
to is then known without the scopes themselves: its slots are numbered in order
(`Possible.slots_eq_range`), the names in scope have some of them, each once (`entries_sublist`), and a
name stands for its innermost open declaration (`Possible.lookup_eq_some_iff`).
-/

namespace DeskCalc

/-- A variable of a type that was given a slot. -/
structure Allocation where
  name : String
  ty : Ty
  slot : Nat
  deriving Repr, DecidableEq

def Allocation.entry (a : Allocation) : String × Symbol :=
  (a.name, ⟨a.ty, some a.slot⟩)

/-- What happens to scopes: one is entered inside the innermost one, the innermost one is left, or a
variable is declared in it. -/
inductive Change where
  | entered
  | left
  | allocated (a : Allocation)
  deriving Repr, DecidableEq

/-- What happened, the latest first. -/
abbrev History := List Change

/-! ### Which scope has what -/

namespace Scopes

/-- The entry is in the scope that lies so many scopes around the innermost one. -/
def Has (s : Scopes) (around : Nat) (entry : String × Symbol) : Prop :=
  ∃ scope, (s.inner :: s.outer)[around]? = some scope ∧ entry ∈ scope

variable {s : Scopes} {name : String} {symbol : Symbol} {around : Nat} {entry : String × Symbol}

theorem has_zero_iff : s.Has 0 entry ↔ entry ∈ s.inner := by
  simp [Has]

theorem not_has_start : ¬start.Has around entry := by
  rintro ⟨scope, hs, he⟩
  obtain rfl : scope = [] := by
    cases around with
    | zero => exact (Option.some.inj hs).symm
    | succ n => cases hs
  cases he

theorem not_has_enter_zero : ¬s.enter.Has 0 entry := by
  rw [has_zero_iff]
  exact List.not_mem_nil

theorem has_enter_succ : s.enter.Has (around + 1) entry ↔ s.Has around entry := Iff.rfl

theorem has_leave (h : s.outer ≠ []) : s.leave.Has around entry ↔ s.Has (around + 1) entry := by
  obtain ⟨inner, outer⟩ := s
  cases outer with
  | nil => exact absurd rfl h
  | cons scope outer => exact Iff.rfl

theorem has_add :
    (s.add name symbol).Has around entry ↔
      around = 0 ∧ entry = (name, symbol) ∨ s.Has around entry := by
  cases around with
  | zero => simp [has_zero_iff, add]
  | succ n => simp [Has, add]

theorem entries_leave_sublist (s : Scopes) : s.leave.entries.Sublist s.entries := by
  obtain ⟨inner, outer⟩ := s
  cases outer with
  | nil => exact .refl _
  | cons scope outer => exact List.sublist_append_right inner _

/-- No scope has a name twice. -/
def Distinct (s : Scopes) : Prop := ∀ scope ∈ s.inner :: s.outer, (scope.map Prod.fst).Nodup

theorem distinct_start : start.Distinct := by
  intro scope hs
  obtain rfl := List.mem_singleton.mp hs
  exact List.nodup_nil

theorem Distinct.enter (h : s.Distinct) : s.enter.Distinct :=
  List.forall_mem_cons.mpr ⟨List.nodup_nil, h⟩

theorem Distinct.leave (h : s.Distinct) : s.leave.Distinct := by
  obtain ⟨inner, outer⟩ := s
  cases outer with
  | nil => exact h
  | cons scope outer => exact (List.forall_mem_cons.mp h).2

theorem Distinct.add (h : s.Distinct) (hn : s.inner.lookup name = none) (symbol : Symbol) :
    (s.add name symbol).Distinct := by
  obtain ⟨hinner, houter⟩ := List.forall_mem_cons.mp h
  have hnew : name ∉ s.inner.map Prod.fst := by
    intro hmem
    obtain ⟨entry, he, rfl⟩ := List.mem_map.mp hmem
    simpa using List.lookup_eq_none_iff.mp hn entry he
  exact List.forall_mem_cons.mpr ⟨List.nodup_cons.mpr ⟨hnew, hinner⟩, houter⟩

/-- In a scope that has no name twice, a name stands for what it is entered with. -/
theorem lookup_eq_some_iff_mem {scope : Scope} (h : (scope.map Prod.fst).Nodup) :
    scope.lookup name = some symbol ↔ (name, symbol) ∈ scope := by
  induction scope with
  | nil => simp
  | cons entry scope ih =>
    obtain ⟨first, found⟩ := entry
    obtain ⟨hfirst, hrest⟩ := List.nodup_cons.mp h
    rw [List.lookup_cons, List.mem_cons]
    by_cases hname : name = first
    · subst hname
      have hlater : name ∉ scope.map Prod.fst := hfirst
      have habsent : (name, symbol) ∉ scope := fun hmem => hlater (List.mem_map_of_mem hmem)
      simp [habsent, eq_comm]
    · simp [beq_eq_false_iff_ne.mpr hname, hname, ih hrest]

theorem lookup_eq_none_iff_mem {scope : Scope} :
    scope.lookup name = none ↔ ∀ entry ∈ scope, entry.1 ≠ name := by
  rw [List.lookup_eq_none_iff]
  exact forall₂_congr fun entry _ => by rw [bne_iff_ne, ne_comm]

/-- In a scope that has no name twice, a name is there with one symbol. -/
theorem Distinct.symbol_unique {symbol' : Symbol} (hd : s.Distinct) (h : s.Has around (name, symbol))
    (h' : s.Has around (name, symbol')) : symbol = symbol' := by
  obtain ⟨scope, hs, he⟩ := h
  obtain ⟨_, hs', he'⟩ := h'
  cases hs.symm.trans hs'
  have hnodup := hd scope (List.mem_of_getElem? hs)
  have hfound := (lookup_eq_some_iff_mem hnodup).mpr he
  rw [(lookup_eq_some_iff_mem hnodup).mpr he'] at hfound
  exact (Option.some.inj hfound).symm

/-- **A name stands for what the nearest scope that has it says.** -/
theorem Distinct.lookup_eq_some_iff (h : s.Distinct) :
    s.lookup name = some symbol ↔ ∃ around, s.Has around (name, symbol) ∧
      ∀ nearer < around, ∀ entry, s.Has nearer entry → entry.1 ≠ name := by
  unfold lookup Has
  rw [List.findSome?_eq_some_iff]
  constructor
  · rintro ⟨before, scope, behind, hs, hl, hnone⟩
    have hscope : (s.inner :: s.outer)[before.length]? = some scope := by
      rw [hs]
      simp
    have hmem := (lookup_eq_some_iff_mem (h scope (List.mem_of_getElem? hscope))).mp hl
    refine ⟨before.length, ⟨scope, hscope, hmem⟩, ?_⟩
    rintro nearer hn entry ⟨other, ho, he⟩
    rw [hs, List.getElem?_append_left hn] at ho
    exact lookup_eq_none_iff_mem.mp (hnone other (List.mem_of_getElem? ho)) entry he
  · rintro ⟨around, ⟨scope, hs, he⟩, hnearest⟩
    have hl := (lookup_eq_some_iff_mem (h scope (List.mem_of_getElem? hs))).mpr he
    obtain ⟨hlt, rfl⟩ := List.getElem?_eq_some_iff.mp hs
    refine ⟨(s.inner :: s.outer).take around, _, (s.inner :: s.outer).drop (around + 1), ?_, hl,
      ?_⟩
    · rw [← List.drop_eq_getElem_cons hlt, List.take_append_drop]
    · intro other ho
      obtain ⟨nearer, hn, rfl⟩ := List.mem_take_iff_getElem.mp ho
      obtain ⟨hnear, hin⟩ := Nat.lt_min.mp hn
      exact lookup_eq_none_iff_mem.mpr fun entry he =>
        hnearest nearer hnear entry ⟨_, List.getElem?_eq_getElem hin, he⟩

theorem lookup_eq_none_iff_not_has :
    s.lookup name = none ↔ ∀ around symbol, ¬s.Has around (name, symbol) := by
  unfold lookup
  rw [List.findSome?_eq_none_iff]
  constructor
  · rintro hnone around symbol ⟨scope, hs, he⟩
    exact lookup_eq_none_iff_mem.mp (hnone scope (List.mem_of_getElem? hs)) _ he rfl
  · intro hnone scope hs
    obtain ⟨around, hs⟩ := List.mem_iff_getElem?.mp hs
    refine lookup_eq_none_iff_mem.mpr ?_
    rintro ⟨_, symbol⟩ he rfl
    exact hnone around symbol ⟨scope, hs, he⟩

theorem declare_eq_error_iff {file : String} {line : Nat} {d : Diagnostic} :
    s.declare name symbol line file = .error d ↔
      (∃ earlier, s.Has 0 (name, earlier)) ∧ d = ⟨.variableAlreadyDeclared name, line, file⟩ := by
  have hinner : (∃ earlier, s.Has 0 (name, earlier)) ↔ s.inner.lookup name ≠ none := by
    simp [has_zero_iff]
  rw [hinner]
  unfold declare
  cases s.inner.lookup name <;> simp [eq_comm]

end Scopes

/-! ### Histories -/

namespace History

/-- The variables that were given slots, the latest first. -/
def allocations : History → List Allocation
  | [] => []
  | .entered :: earlier => allocations earlier
  | .left :: earlier => allocations earlier
  | .allocated a :: earlier => a :: allocations earlier

def scopes : History → Scopes
  | [] => .start
  | .entered :: earlier => (scopes earlier).enter
  | .left :: earlier => (scopes earlier).leave
  | .allocated a :: earlier => (scopes earlier).add a.name ⟨a.ty, some a.slot⟩

/-- The history is possible: the outermost scope is never left, and each variable is given the next
slot under a name that the innermost scope does not have yet. -/
inductive Possible : History → Prop
  | start : Possible []
  | entered {earlier} : Possible earlier → Possible (.entered :: earlier)
  | left {earlier} : Possible earlier → (scopes earlier).outer ≠ [] → Possible (.left :: earlier)
  | allocated {earlier a} : Possible earlier → (scopes earlier).inner.lookup a.name = none →
      a.slot = (allocations earlier).length → Possible (.allocated a :: earlier)

/-- The declaration is open: its scope was not left, and lies so many scopes around the innermost
one. -/
inductive Open (a : Allocation) : History → Nat → Prop
  | here {earlier} : Open a (.allocated a :: earlier) 0
  | allocated {earlier b around} : Open a earlier around → Open a (.allocated b :: earlier) around
  | entered {earlier around} : Open a earlier around → Open a (.entered :: earlier) (around + 1)
  | left {earlier around} : Open a earlier (around + 1) → Open a (.left :: earlier) around

/-- The declaration is the innermost open one of its name. -/
def Innermost (h : History) (a : Allocation) : Prop :=
  ∃ around, Open a h around ∧ ∀ nearer < around, ∀ b, Open b h nearer → b.name ≠ a.name

variable {h earlier : History} {a b : Allocation} {around : Nat}

theorem open_allocated_iff :
    Open a (.allocated b :: earlier) around ↔ around = 0 ∧ a = b ∨ Open a earlier around := by
  constructor
  · intro ho
    cases ho with
    | here => exact .inl ⟨rfl, rfl⟩
    | allocated ho => exact .inr ho
  · rintro (⟨rfl, rfl⟩ | ho)
    · exact .here
    · exact .allocated ho

theorem open_left_iff : Open a (.left :: earlier) around ↔ Open a earlier (around + 1) :=
  ⟨fun | .left ho => ho, .left⟩

theorem open_entered_succ_iff :
    Open a (.entered :: earlier) (around + 1) ↔ Open a earlier around :=
  ⟨fun | .entered ho => ho, .entered⟩

/-! ### Slots -/

/-- **Slots are given in order, and none twice.** -/
theorem Possible.slots_eq_range (hp : Possible h) :
    (allocations h).reverse.map Allocation.slot = List.range (allocations h).length := by
  induction hp with
  | start => rfl
  | entered _ ih => exact ih
  | left _ _ ih => exact ih
  | allocated _ _ hslot ih =>
    rw [allocations, List.reverse_cons, List.map_append, ih, List.length_cons, List.range_succ]
    simp [hslot]

theorem Possible.slot_lt (hp : Possible h) (ha : a ∈ allocations h) :
    a.slot < (allocations h).length := by
  rw [← List.mem_range, ← hp.slots_eq_range]
  exact List.mem_map_of_mem (List.mem_reverse.mpr ha)

theorem Possible.slots_nodup (hp : Possible h) : ((allocations h).map Allocation.slot).Nodup := by
  rw [← List.nodup_reverse, ← List.map_reverse, hp.slots_eq_range]
  exact List.nodup_range

/-- **The names in scope have slots that were given**, and what was given once is there at most
once. -/
theorem entries_sublist (h : History) :
    (scopes h).entries.Sublist ((allocations h).map Allocation.entry) := by
  induction h with
  | nil => exact List.nil_sublist _
  | cons change earlier ih =>
    cases change with
    | entered => exact ih
    | left => exact (Scopes.entries_leave_sublist _).trans ih
    | allocated a => exact ih.cons_cons _

/-! ### Open declarations -/

/-- **A scope has the declarations that are open in it.** -/
theorem Possible.has_iff_open (hp : Possible h) :
    (scopes h).Has around a.entry ↔ Open a h around := by
  induction hp generalizing around with
  | start =>
    constructor
    · exact fun hh => absurd hh Scopes.not_has_start
    · intro ho
      cases ho
  | entered _ ih =>
    cases around with
    | zero =>
      constructor
      · exact fun hh => absurd hh Scopes.not_has_enter_zero
      · intro ho
        cases ho
    | succ n => exact Scopes.has_enter_succ.trans (ih.trans open_entered_succ_iff.symm)
  | left _ houter ih =>
    -- every scope comes one nearer, the innermost one apart, which is gone
    rw [scopes, Scopes.has_leave houter, ih, open_left_iff]
  | @allocated _ b _ _ _ ih =>
    have hentry : a.entry = (b.name, ⟨b.ty, some b.slot⟩) ↔ a = b := by
      obtain ⟨name, ty, slot⟩ := a
      obtain ⟨name', ty', slot'⟩ := b
      simp [Allocation.entry]
    rw [scopes, Scopes.has_add, ih, open_allocated_iff, hentry]

theorem exists_open_of_has (hp : Possible h) {entry : String × Symbol}
    (hh : (scopes h).Has around entry) : ∃ a, entry = a.entry ∧ Open a h around := by
  obtain ⟨scope, hs, he⟩ := hh
  have hmem : entry ∈ (scopes h).entries :=
    List.mem_flatten.mpr ⟨scope, List.mem_of_getElem? hs, he⟩
  obtain ⟨a, -, rfl⟩ := List.mem_map.mp ((entries_sublist h).subset hmem)
  exact ⟨a, rfl, hp.has_iff_open.mp ⟨scope, hs, he⟩⟩

theorem Possible.distinct (hp : Possible h) : (scopes h).Distinct := by
  induction hp with
  | start => exact Scopes.distinct_start
  | entered _ ih => exact ih.enter
  | left _ _ ih => exact ih.leave
  | allocated _ hname _ ih => exact ih.add hname _

/-- **A name stands for its innermost open declaration.** -/
theorem Possible.lookup_eq_some_iff (hp : Possible h) {name : String} {ty : Ty} {slot : Nat} :
    (scopes h).lookup name = some ⟨ty, some slot⟩ ↔ h.Innermost ⟨name, ty, slot⟩ := by
  rw [hp.distinct.lookup_eq_some_iff]
  refine exists_congr fun around => and_congr ?_ ?_
  · exact hp.has_iff_open (a := ⟨name, ty, slot⟩)
  · refine forall_congr' fun nearer => forall_congr' fun _ => ?_
    constructor
    · exact fun hnone b hb => hnone b.entry (hp.has_iff_open.mpr hb)
    · intro hnone entry he
      obtain ⟨b, rfl, hb⟩ := exists_open_of_has hp he
      exact hnone b hb

/-- The innermost scope lacks a name that no declaration in it has. -/
theorem Possible.inner_lookup_eq_none_iff (hp : Possible h) {name : String} :
    (scopes h).inner.lookup name = none ↔ ∀ a, Open a h 0 → a.name ≠ name := by
  rw [Scopes.lookup_eq_none_iff_mem]
  constructor
  · exact fun hnone a ha => hnone a.entry (Scopes.has_zero_iff.mp (hp.has_iff_open.mpr ha))
  · intro hnone entry he
    obtain ⟨a, rfl, ha⟩ := exists_open_of_has hp (Scopes.has_zero_iff.mpr he)
    exact hnone a ha

end History

end DeskCalc
