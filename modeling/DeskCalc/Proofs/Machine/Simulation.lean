import DeskCalc.Proofs.Code.Fixpoint
import DeskCalc.Proofs.Machine.Follow

/-!
The machine follows the evaluation. A slot holds values of one type, the one that its variable was
declared with, and no two names in scope share a slot; so what the machine finds in the slots are the
values of the variables. Main statements: the code of an expression pushes its value
(`Expr.Emits.follow_eq`), and the code of a statement does what the statement does
(`Stmt.Emits.simulate`).
-/

namespace DeskCalc

/-! ### Slots -/

/-- The names in scope have slots of their types, and no two names share one. -/
structure Scopes.Fits (scopes : Scopes) (types : List Ty) : Prop where
  typed : ∀ entry ∈ scopes.entries, ∃ slot, entry.2.slot? = some slot ∧
    types[slot]? = some entry.2.ty
  distinct : ∀ a ∈ scopes.entries, ∀ b ∈ scopes.entries, a.2.slot? = b.2.slot? → a.1 = b.1

namespace Scopes

theorem fits_start : start.Fits [] where
  typed entry h := by cases h
  distinct a h := by cases h

variable {scopes : Scopes} {types : List Ty}

theorem Fits.lookup (h : scopes.Fits types) {name : String} {symbol : Symbol}
    (hl : scopes.lookup name = some symbol) :
    ∃ slot, symbol.slot? = some slot ∧ types[slot]? = some symbol.ty :=
  h.typed _ (mem_entries_of_lookup hl)

theorem Fits.getElem?_slot (h : scopes.Fits types) {name : String} {ty : Ty} {slot : Nat}
    (hl : scopes.lookup name = some ⟨ty, some slot⟩) : types[slot]? = some ty := by
  obtain ⟨_, ⟨⟩, ht⟩ := h.lookup hl
  exact ht

theorem Fits.slot_lt (h : scopes.Fits types) {name : String} {ty : Ty} {slot : Nat}
    (hl : scopes.lookup name = some ⟨ty, some slot⟩) : slot < types.length :=
  (List.getElem?_eq_some_iff.mp (h.getElem?_slot hl)).1

theorem Fits.slot_ne (h : scopes.Fits types) {x y : String} {s t : Symbol}
    (hx : scopes.lookup x = some s) (hy : scopes.lookup y = some t) (hne : x ≠ y) :
    s.slot? ≠ t.slot? :=
  fun he => hne (h.distinct _ (mem_entries_of_lookup hx) _ (mem_entries_of_lookup hy) he)

/-- The next slot is free for another name. -/
theorem Fits.add (h : scopes.Fits types) (name : String) (ty : Ty) :
    (scopes.add name ⟨ty, some types.length⟩).Fits (types ++ [ty]) where
  typed entry he := by
    rcases List.mem_cons.mp he with rfl | he
    · exact ⟨types.length, rfl, by simp⟩
    · obtain ⟨slot, hs, ht⟩ := h.typed entry he
      have hlt : slot < types.length := (List.getElem?_eq_some_iff.mp ht).1
      exact ⟨slot, hs, by rw [List.getElem?_append_left hlt, ht]⟩
  distinct a ha b hb hab := by
    have hfree : ∀ entry ∈ scopes.entries, entry.2.slot? ≠ some types.length := by
      intro entry he hs
      obtain ⟨slot, hs', ht⟩ := h.typed entry he
      have hlt : slot < types.length := (List.getElem?_eq_some_iff.mp ht).1
      rw [hs'] at hs
      cases hs
      omega
    rcases List.mem_cons.mp ha with rfl | ha <;> rcases List.mem_cons.mp hb with rfl | hb
    · rfl
    · exact absurd hab.symm (hfree b hb)
    · exact absurd hab (hfree a ha)
    · exact h.distinct a ha b hb hab

theorem Fits.enter (h : scopes.Fits types) : scopes.enter.Fits types :=
  ⟨h.typed, h.distinct⟩

theorem Fits.leave (h : scopes.Fits types) : scopes.leave.Fits types where
  typed entry he := h.typed entry (mem_entries_leave he)
  distinct a ha b hb := h.distinct a (mem_entries_leave ha) b (mem_entries_leave hb)

theorem Typed.bare {values : String → Value} (h : scopes.Typed values) :
    scopes.bare.Typed values := by
  intro name found hl
  rw [lookup_bare] at hl
  obtain ⟨symbol, hs, rfl⟩ := Option.map_eq_some_iff.mp hl
  exact h name symbol hs

end Scopes

/-- The slots that the generator has given have the types, and its names have slots of theirs. -/
structure Generator.Fits (g : Generator) (types : List Ty) : Prop where
  scopes : g.scopes.Fits types
  length : types.length = g.slotsUsed

namespace Generator

theorem fits_start (target : Target) (file : Option String) : (start target file).Fits [] :=
  ⟨Scopes.fits_start, rfl⟩

theorem Fits.allocated {g : Generator} {types : List Ty} (h : g.Fits types) (name : String)
    (ty : Ty) : (g.allocated name ty).Fits (types ++ [ty]) where
  scopes := by
    rw [Generator.allocated, ← h.length]
    exact h.scopes.add name ty
  length := by
    rw [List.length_append, h.length]
    rfl

theorem Fits.took {g : Generator} {types : List Ty} (h : g.Fits types) (steps : List Step) :
    (g.took steps).Fits types :=
  ⟨h.scopes, h.length⟩

end Generator

/-! ### What the slots hold -/

namespace Machine

/-- Every slot that was set holds a value of its type. -/
def Holds (m : Machine) (types : List Ty) : Prop :=
  ∀ (slot : Nat) (v : Value), m.slots[slot]? = some (some v) → types[slot]? = some v.ty

/-- The value of a name in scope, as the machine holds it. -/
def values (m : Machine) (scopes : Scopes) (name : String) : Value :=
  match scopes.lookup name with
  | some ⟨ty, some slot⟩ => (m.slots[slot]?.join).getD (.zero ty)
  | _ => .zero .int

variable {m : Machine} {scopes : Scopes} {types : List Ty}

theorem values_of_lookup {name : String} {ty : Ty} {slot : Nat}
    (hl : scopes.lookup name = some ⟨ty, some slot⟩) :
    m.values scopes name = (m.slots[slot]?.join).getD (.zero ty) := by
  simp only [values, hl]

/-- The values in the slots have the types of the names. -/
theorem Holds.typed (h : m.Holds types) (hf : scopes.Fits types) :
    scopes.Typed (m.values scopes) := by
  rintro name ⟨ty, slot?⟩ hl
  obtain ⟨slot, hs, ht⟩ := hf.lookup hl
  obtain rfl : slot? = some slot := hs
  rw [values_of_lookup hl]
  cases hv : m.slots[slot]?.join with
  | none => exact Value.ty_zero ty
  | some v =>
    have hty := h slot v (Option.join_eq_some_iff.mp hv)
    rw [ht] at hty
    exact (Option.some.inj hty).symm

end Machine

/-! ### Expressions -/

def instructions (steps : List Step) : List Instruction :=
  steps.flatMap Step.instructions

theorem instructions_append (steps more : List Step) :
    instructions (steps ++ more) = instructions steps ++ instructions more :=
  List.flatMap_append

theorem Generator.instructions_bytecode (g : Generator) :
    g.bytecode.instructions = instructions g.steps := rfl

/-- A machine that was loaded has the slots that the generator has given. -/
theorem Generator.size_loaded (g : Generator) :
    (Machine.loaded g.bytecode).slots.size = g.slotsUsed := by
  simp [Machine.loaded, bytecode, Bytecode.ofSteps]

namespace Machine

variable {m : Machine} {scopes : Scopes} {types : List Ty}

/-- A variable in scope has a slot that the machine finds, and its value has the type. -/
theorem Holds.read (h : m.Holds types) (hf : scopes.Fits types)
    (hs : types.length ≤ m.slots.size) {name : String} {ty : Ty} {slot : Nat}
    (hl : scopes.lookup name = some ⟨ty, some slot⟩) :
    ∃ held, m.slots[slot]? = some held ∧ held.getD (.zero ty) = m.values scopes name ∧
      (m.values scopes name).ty = ty := by
  have hlt := hf.slot_lt hl
  have hg : m.slots[slot]? = some m.slots[slot] := Array.getElem?_eq_getElem (by omega)
  refine ⟨m.slots[slot], hg, ?_, h.typed hf name _ hl⟩
  rw [values_of_lookup hl, hg]
  rfl

end Machine

namespace Expr

variable {scopes : Scopes} {types : List Ty} {e : Expr} {steps : List Step} {ty : Ty} {m : Machine}

open Machine

theorem Emits.ty_evaluate {target : Target} (h : e.Emits target scopes steps ty)
    (hw : e.OnlyWidens) {values : String → Value} (ht : scopes.Typed values) {v : Value}
    (hv : e.evaluate values = .ok v) : v.ty = ty :=
  h.elaborates.ty_evaluate hw ht.bare hv

/-- **The code of an expression pushes its value**, or stops the machine with the fault of the
evaluation. -/
theorem Emits.follow_eq (h : e.Emits .bytecode scopes steps ty) (hw : e.OnlyWidens)
    (hf : scopes.Fits types) (hm : m.Holds types) (hs : types.length ≤ m.slots.size) :
    follow (instructions steps) m = (e.evaluate (m.values scopes)).map m.pushed := by
  induction h generalizing m with
  | @number text ty line hh =>
    obtain ⟨v, hv⟩ := Option.isSome_iff_exists.mp ((literalValue?_isSome text ty).trans hh)
    have hi : instructions [.literal text ty] = [.push v] := by
      simp [instructions, Step.instructions, hv]
    rw [hi, follow_singleton, next_push, evaluate, hv]
    rfl
  | @symbol name line slot ty hl =>
    obtain ⟨held, hg, hv, ht⟩ := hm.read hf hs hl
    have hi : instructions [.load slot ty] = [.load ty slot] := rfl
    rw [hi, follow_singleton, next_load hg (by rw [hv, ht]), hv]
    rfl
  | @binary left right operator line ls rs ty hl hr ihl ihr =>
    obtain ⟨hwl, hwr⟩ := onlyWidens_binary.mp hw
    have hi : instructions [.binary operator ty] = [.arithmetic operator ty] := rfl
    rw [instructions_append, instructions_append, follow_append, follow_append, hi, ihl hwl hm hs,
      evaluate]
    cases hvl : left.evaluate (m.values scopes) with
    | error f => rfl
    | ok l =>
      -- the left value lies on the stack, the slots are as they were
      have hright := ihr hwr (m := m.pushed l) hm hs
      have hvals : (m.pushed l).values scopes = m.values scopes := rfl
      rw [hvals] at hright
      show ((follow (instructions rs) (m.pushed l)) >>= follow _) = Except.map _ (_ >>= _)
      rw [hright]
      cases hvr : right.evaluate (m.values scopes) with
      | error f => rfl
      | ok r =>
        have htl := hl.ty_evaluate hwl (hm.typed hf) hvl
        have htr := hr.ty_evaluate hwr (hm.typed hf) hvr
        show follow [.arithmetic operator ty] ((m.pushed l).pushed r) = _
        rw [follow_singleton, next_arithmetic htl htr]
        rfl
  | @convert inner target line steps received hi ih =>
    obtain ⟨rfl, hwi⟩ := onlyWidens_convert.mp hw
    rw [instructions_append, follow_append, ih hwi hm hs, evaluate]
    cases hv : inner.evaluate (m.values scopes) with
    | error f => rfl
    | ok v =>
      have ht := hi.ty_evaluate hwi (hm.typed hf) hv
      cases v with
      | int n =>
        subst ht
        show follow [.widen] (m.pushed (.int n)) = _
        rw [follow_singleton, next_widen]
        rfl
      | float x =>
        subst ht
        rfl

end Expr

/-! ### Statements -/

/-- The types of the slots that a statement takes: that of the variable if it is a declaration. -/
def Stmt.slotTypes : Stmt → List Ty
  | declaration _ ty _ _ => [ty]
  | assignment .. => []
  | print .. => []

namespace Machine

/-- The machine has come as far as the evaluation: it holds the values of the names in scope and has
printed the same. -/
structure Agrees (m : Machine) (scopes : Scopes) (types : List Ty) (ev : Evaluation) : Prop where
  holds : m.Holds types
  values : m.values scopes = ev.values
  printed : m.output = ev.printed

variable {m : Machine} {scopes : Scopes} {types : List Ty} {ev : Evaluation}

theorem holds_loaded (p : Bytecode) (types : List Ty) : (loaded p).Holds types := by
  intro slot v h
  simp [loaded, Array.getElem?_replicate] at h

theorem agrees_loaded (p : Bytecode) : (loaded p).Agrees .start [] .start :=
  ⟨holds_loaded p [], rfl, rfl⟩

theorem Holds.append (h : m.Holds types) (more : List Ty) : m.Holds (types ++ more) := by
  intro slot v hs
  have ht := h slot v hs
  rw [List.getElem?_append_left (List.getElem?_eq_some_iff.mp ht).1, ht]

/-- A slot that was never given reads as zero. -/
theorem Agrees.declare (h : m.Agrees scopes types ev) (name : String) (ty : Ty) :
    m.Agrees (scopes.add name ⟨ty, some types.length⟩) (types ++ [ty]) (ev.set name (.zero ty)) where
  holds := h.holds.append _
  values := by
    funext x
    have hunset : m.slots[types.length]?.join = none := by
      cases hj : m.slots[types.length]?.join with
      | none => rfl
      | some v =>
        have ht := h.holds _ v (Option.join_eq_some_iff.mp hj)
        simp at ht
    show _ = Function.update ev.values name (.zero ty) x
    by_cases hx : x = name
    · subst hx
      rw [Function.update_self, values_of_lookup (Scopes.lookup_add_self ..), hunset]
      rfl
    · rw [Function.update_of_ne hx, ← h.values]
      simp only [Machine.values, Scopes.lookup_add, if_neg hx]
  printed := h.printed

theorem Agrees.allocated {g : Generator} (h : m.Agrees g.scopes types ev) (hf : g.Fits types)
    (name : String) (ty : Ty) :
    m.Agrees (g.allocated name ty).scopes (types ++ [ty]) (ev.set name (.zero ty)) := by
  rw [Generator.allocated, ← hf.length]
  exact h.declare name ty

/-- Setting the slot of a variable changes this variable and no other one. -/
theorem Agrees.store (h : m.Agrees scopes types ev) (hf : scopes.Fits types) {name : String}
    {ty : Ty} {slot : Nat} (hl : scopes.lookup name = some ⟨ty, some slot⟩) {v : Value}
    (hv : v.ty = ty) (hs : slot < m.slots.size) :
    Agrees { m with slots := m.slots.setIfInBounds slot (some v) } scopes types (ev.set name v) where
  holds := by
    intro i w hw
    by_cases hi : slot = i
    · subst hi
      rw [Array.getElem?_setIfInBounds_self_of_lt hs] at hw
      cases hw
      rw [hf.getElem?_slot hl, hv]
    · rw [Array.getElem?_setIfInBounds_ne hi] at hw
      exact h.holds i w hw
  values := by
    funext x
    show _ = Function.update ev.values name v x
    by_cases hx : x = name
    · subst hx
      rw [Function.update_self, values_of_lookup hl, Array.getElem?_setIfInBounds_self_of_lt hs]
      rfl
    · rw [Function.update_of_ne hx, ← h.values]
      simp only [Machine.values]
      cases hy : scopes.lookup x with
      | none => rfl
      | some symbol =>
        obtain ⟨t, slot?⟩ := symbol
        have hne := hf.slot_ne hl hy (Ne.symm hx)
        cases slot? with
        | none => rfl
        | some i =>
          have hi : slot ≠ i := fun hi => hne (congrArg some hi)
          simp only [Array.getElem?_setIfInBounds_ne hi]
  printed := h.printed

end Machine

namespace Stmt

open Machine

variable {g g' : Generator} {s : Stmt} {types : List Ty} {m : Machine} {ev : Evaluation}

/-- Code that stores a value does what storing the value does. -/
theorem follow_store {value : Expr} {scopes : Scopes} {steps : List Step} {ty : Ty} {name : String}
    {slot : Nat} (he : value.Emits .bytecode scopes steps ty) (hw : value.OnlyWidens)
    (hf : scopes.Fits types) (hl : scopes.lookup name = some ⟨ty, some slot⟩)
    (hm : m.Agrees scopes types ev) (hs : types.length ≤ m.slots.size) :
    (∀ ev', (value.evaluate ev.values).map (fun v => ev.set name (v.as ty)) = .ok ev' →
      ∃ m', follow (instructions (steps ++ [.store slot ty])) m = .ok m' ∧
        m'.Agrees scopes types ev' ∧ m'.stack = m.stack ∧ m'.slots.size = m.slots.size) ∧
    (∀ f, (value.evaluate ev.values).map (fun v => ev.set name (v.as ty)) = .error f →
      follow (instructions (steps ++ [.store slot ty])) m = .error f) := by
  have hcode : follow (instructions (steps ++ [.store slot ty])) m =
      (value.evaluate ev.values).map m.pushed >>= follow [.store ty slot] := by
    rw [instructions_append, follow_append, he.follow_eq hw hf hm.holds hs, hm.values]
    rfl
  have hlt := hf.slot_lt hl
  constructor
  · intro ev' hev
    obtain ⟨v, hv, rfl⟩ := Except.map_eq_ok_iff.mp hev
    have hty : v.ty = ty := he.ty_evaluate hw (hm.values ▸ hm.holds.typed hf) hv
    have has : v.as ty = v := by rw [← hty, Value.as_ty]
    rw [has]
    refine ⟨_, ?_, hm.store hf hl hty (by omega), rfl, Array.size_setIfInBounds⟩
    rw [hcode, hv]
    show follow [.store ty slot] (m.pushed v) = _
    rw [follow_singleton, next_store hty (by omega)]
  · intro f hf'
    rw [hcode, Except.map_eq_error_iff.mp hf']
    rfl

/-- **The code of a statement does what the statement does**, and stops the machine exactly if the
statement stops the evaluation, with the same fault. -/
theorem Emits.simulate (h : s.Emits g g') (ht : g.target = .bytecode) (hw : s.OnlyWidens)
    (hf : g.Fits types) (hm : m.Agrees g.scopes types ev) (hs : g'.slotsUsed ≤ m.slots.size)
    {steps : List Step} (hsteps : g'.steps = g.steps ++ steps) :
    (∀ ev', s.evaluate ev = .ok ev' → ∃ m', follow (instructions steps) m = .ok m' ∧
      m'.Agrees g'.scopes (types ++ s.slotTypes) ev' ∧ m'.stack = m.stack ∧
      m'.slots.size = m.slots.size) ∧
    (∀ f, s.evaluate ev = .error f → follow (instructions steps) m = .error f) := by
  cases h with
  | @declaration target ty line hn =>
    obtain rfl : steps = [] := by simpa [Generator.allocated] using hsteps
    refine ⟨?_, fun f hf => by cases hf⟩
    rintro ev' ⟨⟩
    exact ⟨m, rfl, hm.allocated hf target.name ty, rfl, rfl⟩
  | @initialised target ty line value taken hn he =>
    obtain rfl : steps = taken ++ [.store g.slotsUsed ty] := (List.append_cancel_left hsteps).symm
    have hf' := hf.allocated target.name ty
    have hm' := hm.allocated hf target.name ty
    have hl := g.lookup_allocated target.name ty
    have he' : value.Emits .bytecode (g.allocated target.name ty).scopes taken ty := ht ▸ he
    have hs' : (types ++ [ty]).length ≤ m.slots.size := hf'.length ▸ hs
    exact follow_store he' (hw _ rfl) hf'.scopes hl hm' hs'
  | @assignment target line value taken slot ty hl he =>
    obtain rfl : steps = taken ++ [.store slot ty] := (List.append_cancel_left hsteps).symm
    have hty : (ev.values target.name).ty = ty := by
      rw [← hm.values]
      exact hm.holds.typed hf.scopes _ _ hl
    have he' : value.Emits .bytecode g.scopes taken ty := ht ▸ he
    have hs' : types.length ≤ m.slots.size := hf.length ▸ hs
    have hstore := follow_store he' (hw _ rfl) hf.scopes hl hm hs'
    rw [slotTypes, List.append_nil, evaluate, hty]
    exact hstore
  | @print target line slot ty hl =>
    obtain rfl : steps = [.print slot ty] := (List.append_cancel_left hsteps).symm
    have hs' : types.length ≤ m.slots.size := hf.length ▸ hs
    obtain ⟨held, hg, hv, hty⟩ := hm.holds.read hf.scopes hs' hl
    have hp := follow_print hg (by rw [hv, hty])
    rw [slotTypes, List.append_nil]
    refine ⟨?_, fun f hf => by cases hf⟩
    rintro ev' ⟨⟩
    refine ⟨_, hp, ⟨hm.holds, hm.values, ?_⟩, rfl, rfl⟩
    show m.output ++ [held.getD (.zero ty)] = ev.printed ++ [ev.values target.name]
    rw [hv, hm.printed, hm.values]

end Stmt

end DeskCalc
