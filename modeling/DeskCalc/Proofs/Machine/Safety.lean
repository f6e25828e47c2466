import DeskCalc.Proofs.Machine.Meaning

/-!
Checked code does not go wrong. A checker and a generator are taken through the same history, in which
scopes are entered and left between statements; the generator is given the statements as the checker
leaves them. The names in scope stay the same on both sides, every slot holds values of one type, and
the code of a statement leaves the stack as it found it. Main statement: the generator refuses nothing,
and only arithmetic can stop its code (`checked_code_cannot_go_wrong`).
-/

namespace DeskCalc

/-! ### Histories -/

/-- What happens to a checker or a generator. -/
inductive Event where
  | enter
  | leave
  | statement (s : Stmt)

/-- Every conversion in the event leads to `float`, and every literal stands for a number of its
type. -/
def Event.Admissible : Event → Prop
  | enter => True
  | leave => True
  | statement s => s.OnlyWidens ∧ ∀ l ∈ s.literals, l.2.admits l.1 = true

instance (e : Expr) : Decidable e.OnlyWidens :=
  inferInstanceAs (Decidable (∀ t ∈ e.conversionTargets, t = .float))

instance (s : Stmt) : Decidable s.OnlyWidens :=
  inferInstanceAs (Decidable (∀ e ∈ s.value?, e.OnlyWidens))

instance : DecidablePred Event.Admissible
  | .enter => .isTrue trivial
  | .leave => .isTrue trivial
  | .statement s =>
    inferInstanceAs (Decidable (s.OnlyWidens ∧ ∀ l ∈ s.literals, l.2.admits l.1 = true))

namespace Checker

/-- The event as the checker leaves it, and the checker after it. The outermost scope is not left. -/
def event (c : Checker) : Event → Except Diagnostic (Event × Checker)
  | .enter => .ok (.enter, { c with scopes := c.scopes.enter })
  | .leave => .ok (.leave, { c with scopes := c.scopes.leave })
  | .statement s =>
    let (r, c) := c.statement s
    r.verdict.map fun () => (.statement r.tree, c)

/-- Events in order, up to the first statement that is refused. -/
def events (c : Checker) : List Event → Except Diagnostic (List Event × Checker)
  | [] => .ok ([], c)
  | event :: events => do
    let (event, c) ← c.event event
    let (events, c) ← c.events events
    return (event :: events, c)

/-- A statement that the checker lets pass is accepted. -/
theorem accepted_of_event {c c' : Checker} {s : Stmt} {e : Event}
    (h : c.event (.statement s) = .ok (e, c')) :
    ∃ s' n, e = .statement s' ∧ s.Accepted c.scopes s' n c'.scopes := by
  rcases hs : c.statement s with ⟨⟨s', n, verdict⟩, c₁⟩
  simp only [event, hs, Except.map_eq_ok_iff] at h
  obtain ⟨⟨⟩, rfl, ⟨⟩⟩ := h
  exact ⟨s', n, rfl, statement_eq_ok_iff.mp ⟨by rw [hs], by rw [hs]⟩⟩

theorem events_cons_eq_ok_iff {c c' : Checker} {e : Event} {events checked : List Event} :
    c.events (e :: events) = .ok (checked, c') ↔
      ∃ e' c₁ rest, c.event e = .ok (e', c₁) ∧ c₁.events events = .ok (rest, c') ∧
        checked = e' :: rest := by
  simp only [Checker.events, Except.bind_eq_ok_iff, Prod.exists]
  constructor
  · rintro ⟨e', c₁, he, rest, c₂, hrest, ⟨⟩⟩
    exact ⟨e', c₁, rest, he, hrest, rfl⟩
  · rintro ⟨e', c₁, rest, he, hrest, rfl⟩
    exact ⟨e', c₁, he, rest, c', hrest, rfl⟩

end Checker

namespace Generate

/-- Takes the steps of an event. The outermost scope is not left. -/
def event : Event → Generate Unit
  | .enter => modify fun g => { g with scopes := g.scopes.enter }
  | .leave => modify fun g => { g with scopes := g.scopes.leave }
  | .statement s => statement s

def events : List Event → Generate Unit
  | [] => pure ()
  | e :: rest => do
    event e
    events rest

theorem events_cons_eq_ok_iff {g g' : Generator} {e : Event} {rest : List Event} :
    events (e :: rest) g = .ok () g' ↔ ∃ g₁, event e g = .ok () g₁ ∧ events rest g₁ = .ok () g' := by
  rw [events, bind_eq_ok_iff]
  constructor
  · rintro ⟨_, g₁, he, hrest⟩
    exact ⟨g₁, he, hrest⟩
  · rintro ⟨g₁, he, hrest⟩
    exact ⟨(), g₁, he, hrest⟩

theorem events_append_eq_ok_iff {g g' : Generator} {before after : List Event} :
    events (before ++ after) g = .ok () g' ↔
      ∃ g₁, events before g = .ok () g₁ ∧ events after g₁ = .ok () g' := by
  induction before generalizing g with
  | nil =>
    constructor
    · exact fun h => ⟨g, rfl, h⟩
    · rintro ⟨g₁, ⟨⟩, h⟩
      exact h
  | cons e before ih =>
    simp only [List.cons_append, events_cons_eq_ok_iff, ih]
    constructor
    · rintro ⟨g₁, he, g₂, hbefore, hafter⟩
      exact ⟨g₂, ⟨g₁, he, hbefore⟩, hafter⟩
    · rintro ⟨g₂, ⟨g₁, he, hbefore⟩, hafter⟩
      exact ⟨g₁, he, g₂, hbefore, hafter⟩

end Generate

/-! ### The generator refuses nothing -/

/-- The checker and the generator know the same names, and the generator has slots for them. -/
structure Joined (c : Checker) (g : Generator) : Prop where
  scopes : c.scopes = g.scopes.bare
  bound : g.scopes.Bound
  target : g.target = .bytecode

namespace Joined

variable {c c' : Checker} {g : Generator} {history checked : List Event}

theorem start (file file' : Option String) :
    Joined (Checker.start file) (Generator.start .bytecode file') :=
  ⟨rfl, Scopes.bound_start, rfl⟩

/-- An event that the checker lets pass is one for the generator. -/
theorem event (hj : Joined c g) {e e' : Event} (ha : e.Admissible)
    (h : c.event e = .ok (e', c')) :
    ∃ g', Generate.event e' g = .ok () g' ∧ Joined c' g' ∧ e'.Admissible := by
  obtain ⟨hscopes, hbound, htarget⟩ := hj
  cases e with
  | enter =>
    cases h
    refine ⟨{ g with scopes := g.scopes.enter }, rfl, ⟨?_, hbound.enter, htarget⟩, trivial⟩
    rw [Scopes.bare_enter, ← hscopes]
  | leave =>
    cases h
    refine ⟨{ g with scopes := g.scopes.leave }, rfl, ⟨?_, hbound.leave, htarget⟩, trivial⟩
    rw [Scopes.bare_leave, ← hscopes]
  | statement s =>
    obtain ⟨hw, hl⟩ := ha
    obtain ⟨s', n, rfl, hs⟩ := Checker.accepted_of_event h
    have hlits : ∀ l ∈ s'.literals, l.2.admits l.1 = true := hs.literals ▸ hl
    obtain ⟨g', hg, hbare⟩ := (hscopes ▸ hs.idempotent).emits hbound (htarget ▸ hlits)
    refine ⟨g', Generate.statement_eq_ok_iff.mpr hg, ⟨hbare.symm, hg.bound hbound, ?_⟩, ?_⟩
    · rw [hg.target_eq, htarget]
    · exact ⟨hs.onlyWidens hw, hlits⟩

theorem events (hj : Joined c g) (ha : ∀ e ∈ history, e.Admissible)
    (h : c.events history = .ok (checked, c')) :
    ∃ g', Generate.events checked g = .ok () g' ∧ ∀ e ∈ checked, e.Admissible := by
  induction history generalizing c g checked with
  | nil =>
    cases h
    exact ⟨g, rfl, ha⟩
  | cons e history ih =>
    rw [List.forall_mem_cons] at ha
    obtain ⟨e', c₁, rest, he, hrest, rfl⟩ := Checker.events_cons_eq_ok_iff.mp h
    obtain ⟨g₁, hg₁, hj₁, ha₁⟩ := hj.event ha.1 he
    obtain ⟨g', hg', harest⟩ := ih hj₁ ha.2 hrest
    exact ⟨g', Generate.events_cons_eq_ok_iff.mpr ⟨g₁, hg₁, hg'⟩,
      List.forall_mem_cons.mpr ⟨ha₁, harest⟩⟩

end Joined

/-! ### Safe code -/

namespace Machine

/-- On a machine that has the slots, holding values of the types, the code leaves the stack as it was
and the slots with values of the types afterwards, unless it stops in arithmetic. -/
def Safe (slots : Nat) (types types' : List Ty) (code : List Instruction) : Prop :=
  ∀ m : Machine, m.Holds types → slots ≤ m.slots.size →
    (∀ m', follow code m = .ok m' →
      m'.Holds types' ∧ m'.stack = m.stack ∧ m'.slots.size = m.slots.size) ∧
    ∀ f, follow code m = .error f → f.IsArithmetic

variable {slots slots' : Nat} {types types' types'' : List Ty} {code more : List Instruction}

theorem safe_nil (slots : Nat) (types : List Ty) : Safe slots types types [] := by
  refine fun m hm _ => ⟨?_, fun f hf => by cases hf⟩
  rintro m' ⟨⟩
  exact ⟨hm, rfl, rfl⟩

theorem Safe.mono (h : Safe slots types types' code) (hle : slots ≤ slots') :
    Safe slots' types types' code :=
  fun m hm hs => h m hm (Nat.le_trans hle hs)

theorem Safe.append (h : Safe slots types types' code) (hmore : Safe slots types' types'' more) :
    Safe slots types types'' (code ++ more) := by
  intro m hm hs
  obtain ⟨hok, herr⟩ := h m hm hs
  rw [follow_append]
  cases hf : follow code m with
  | error f =>
    refine ⟨fun m' h' => (by cases h'), ?_⟩
    rintro f' ⟨⟩
    exact herr f hf
  | ok m₁ =>
    obtain ⟨hm₁, hstack₁, hsize₁⟩ := hok m₁ hf
    obtain ⟨hok₁, herr₁⟩ := hmore m₁ hm₁ (hsize₁ ▸ hs)
    refine ⟨fun m' h' => ?_, herr₁⟩
    obtain ⟨hm', hstack', hsize'⟩ := hok₁ m' h'
    exact ⟨hm', hstack'.trans hstack₁, hsize'.trans hsize₁⟩

end Machine

/-- Only arithmetic stops a statement. -/
theorem Stmt.isArithmetic_of_evaluate {ev : Evaluation} {s : Stmt} {f : Fault}
    (h : s.evaluate ev = .error f) : f.IsArithmetic := by
  cases s with
  | declaration target ty value line =>
    cases value with
    | none => cases h
    | some value => exact Expr.isArithmetic_of_evaluate (Except.map_eq_error_iff.mp h)
  | assignment target value line =>
    exact Expr.isArithmetic_of_evaluate (Except.map_eq_error_iff.mp h)
  | print target line => cases h

namespace Generator

variable {g g' g'' : Generator} {types types' types'' : List Ty} {steps more : List Step}

/-- The steps from one generator to the next are safe code, and the slots given still fit. -/
structure Extends (g g' : Generator) (types types' : List Ty) (steps : List Step) : Prop where
  target : g'.target = g.target
  fits : g'.Fits types'
  slots : g.slotsUsed ≤ g'.slotsUsed
  taken : g'.steps = g.steps ++ steps
  safe : Machine.Safe g'.slotsUsed types types' (instructions steps)

/-- A generator with other names in scope has taken no step. -/
theorem extends_scopes {scopes : Scopes} (hs : scopes.Fits types) (hf : g.Fits types) :
    g.Extends { g with scopes } types types [] where
  target := rfl
  fits := ⟨hs, hf.length⟩
  slots := Nat.le_refl _
  taken := (List.append_nil _).symm
  safe := Machine.safe_nil _ _

theorem Extends.trans (h : g.Extends g' types types' steps)
    (hmore : g'.Extends g'' types' types'' more) :
    g.Extends g'' types types'' (steps ++ more) where
  target := hmore.target.trans h.target
  fits := hmore.fits
  slots := Nat.le_trans h.slots hmore.slots
  taken := by rw [hmore.taken, h.taken, List.append_assoc]
  safe := by
    rw [instructions_append]
    exact (h.safe.mono hmore.slots).append hmore.safe

theorem extends_statement {s : Stmt} (h : s.Emits g g') (ht : g.target = .bytecode)
    (hw : s.OnlyWidens) (hf : g.Fits types) :
    ∃ steps, g.Extends g' types (types ++ s.slotTypes) steps := by
  obtain ⟨steps, hsteps⟩ := h.steps_le
  refine ⟨steps, h.target_eq, h.fits hf, h.slotsUsed_le, hsteps.symm, fun m hm hs => ?_⟩
  -- the machine agrees with the evaluation that begins with what the machine holds
  have hagrees : m.Agrees g.scopes types ⟨m.values g.scopes, m.output⟩ := ⟨hm, rfl, rfl⟩
  obtain ⟨hok, herr⟩ := h.simulate ht hw hf hagrees hs hsteps.symm
  cases hev : s.evaluate ⟨m.values g.scopes, m.output⟩ with
  | ok ev' =>
    obtain ⟨m₁, hm₁, hagrees₁, hstack, hsize⟩ := hok ev' hev
    rw [hm₁]
    refine ⟨?_, fun f hf => by cases hf⟩
    rintro m' ⟨⟩
    exact ⟨hagrees₁.holds, hstack, hsize⟩
  | error f =>
    rw [herr f hev]
    refine ⟨fun m' hm' => (by cases hm'), ?_⟩
    rintro f' ⟨⟩
    exact Stmt.isArithmetic_of_evaluate hev

theorem extends_event {e : Event} (h : Generate.event e g = .ok () g') (ht : g.target = .bytecode)
    (ha : e.Admissible) (hf : g.Fits types) : ∃ types' steps, g.Extends g' types types' steps := by
  cases e with
  | enter =>
    cases h
    exact ⟨types, [], extends_scopes hf.scopes.enter hf⟩
  | leave =>
    cases h
    exact ⟨types, [], extends_scopes hf.scopes.leave hf⟩
  | statement s => exact ⟨_, extends_statement (Generate.statement_eq_ok_iff.mp h) ht ha.1 hf⟩

/-- **The code of a history is safe.** -/
theorem extends_events {history : List Event} (h : Generate.events history g = .ok () g')
    (ht : g.target = .bytecode) (ha : ∀ e ∈ history, e.Admissible) (hf : g.Fits types) :
    ∃ types' steps, g.Extends g' types types' steps := by
  induction history generalizing g types with
  | nil =>
    cases h
    exact ⟨types, [], extends_scopes hf.scopes hf⟩
  | cons e history ih =>
    rw [List.forall_mem_cons] at ha
    obtain ⟨g₁, he, hrest⟩ := Generate.events_cons_eq_ok_iff.mp h
    obtain ⟨types₁, first, h₁⟩ := extends_event he ht ha.1 hf
    obtain ⟨types', more, h'⟩ := ih hrest (h₁.target.trans ht) ha.2 h₁.fits
    exact ⟨types', first ++ more, h₁.trans h'⟩

/-- The code that a generator has written since it was started, run with the slots that a later one
has given. -/
theorem Extends.follow_loaded {file : Option String} {steps : List Step}
    (h : (start .bytecode file).Extends g [] types steps) (hle : g.slotsUsed ≤ g'.slotsUsed) :
    (∀ m, Machine.follow g.bytecode.instructions (Machine.loaded g'.bytecode) = .ok m →
      m.stack = []) ∧
    ∀ f, Machine.follow g.bytecode.instructions (Machine.loaded g'.bytecode) = .error f →
      f.IsArithmetic := by
  have hcode : g.bytecode.instructions = instructions steps := by
    rw [instructions_bytecode, h.taken]
    rfl
  have hsize : g.slotsUsed ≤ (Machine.loaded g'.bytecode).slots.size := by
    rw [size_loaded]
    exact hle
  rw [hcode]
  obtain ⟨hok, herr⟩ := h.safe _ (Machine.holds_loaded _ _) hsize
  exact ⟨fun m hm => (hok m hm).2.1, herr⟩

end Generator

/-! ### Checked code -/

/-- **Checked code cannot go wrong.** Where a checker lets a history pass, the generator refuses
nothing in it. Only arithmetic stops a run of the code, and after the instructions of any part of the
history that comes first the stack is empty. -/
theorem checked_code_cannot_go_wrong {file : Option String} {history checked : List Event}
    {c : Checker} (ha : ∀ e ∈ history, e.Admissible)
    (h : (Checker.start file).events history = .ok (checked, c)) (file' : Option String) :
    ∃ g, Generate.events checked (.start .bytecode file') = .ok () g ∧
      (∀ m e m', Machine.run g.bytecode m = .error e m' →
        e.fault = .divisionByZero ∨ e.fault = .overflow) ∧
      ∀ before after, checked = before ++ after →
        ∃ g₁, Generate.events before (.start .bytecode file') = .ok () g₁ ∧
          g₁.bytecode.instructions <+: g.bytecode.instructions ∧
          ∀ m, Machine.execute g₁.bytecode.instructions 0 (Machine.loaded g.bytecode) = .ok () m →
            m.stack = [] := by
  obtain ⟨g, hg, ha'⟩ := (Joined.start file file').events ha h
  have hstart : (Generator.start .bytecode file').Fits [] := Generator.fits_start ..
  refine ⟨g, hg, ?_, ?_⟩
  · intro m e m' hrun
    obtain ⟨types, steps, hall⟩ := Generator.extends_events hg rfl ha' hstart
    have hfault := Machine.verdict_run g.bytecode m
    rw [hrun] at hfault
    exact (hall.follow_loaded (Nat.le_refl _)).2 _ (Except.map_eq_error_iff.mp hfault.symm)
  · rintro before after rfl
    obtain ⟨g₁, hbefore, hafter⟩ := Generate.events_append_eq_ok_iff.mp hg
    rw [List.forall_mem_append] at ha'
    obtain ⟨types₁, first, hfirst⟩ := Generator.extends_events hbefore rfl ha'.1 hstart
    obtain ⟨types, more, hmore⟩ :=
      Generator.extends_events hafter hfirst.target ha'.2 hfirst.fits
    refine ⟨g₁, hbefore, ⟨instructions more, ?_⟩, fun m hm => ?_⟩
    · rw [Generator.instructions_bytecode, Generator.instructions_bytecode, hmore.taken,
        instructions_append]
    · exact (hfirst.follow_loaded hmore.slots).1 m (Machine.execute_eq_ok_iff.mp hm)

/-- A name that is declared again in an inner scope with a conversion to its type, an operation that
needs another one, leaving a scope that is not there, and a division by a variable without a value. -/
def shadowingHistory : List Event :=
  let x : Identifier := ⟨"x", 1⟩
  let y : Identifier := ⟨"y", 2⟩
  [.statement (.declaration x .int (some (.number "7" .int 1)) 1), .enter,
    .statement (.declaration x .float (some (.convert (.symbol "x" 1) .float 1)) 1),
    .statement (.assignment x (.binary (.symbol "x" 1) .sub (.number "3" .int 1) 1) 1),
    .statement (.print x 1), .leave, .leave, .statement (.declaration y .int none 2),
    .statement (.assignment x (.binary (.symbol "x" 2) .div (.symbol "y" 2) 2) 2),
    .statement (.print x 2)]

theorem checked_code_cannot_go_wrong_shadowing :
    (∀ e ∈ shadowingHistory, e.Admissible) ∧
      ∃ checked c g, (Checker.start none).events shadowingHistory = .ok (checked, c) ∧
        Generate.events checked (.start .bytecode none) = .ok () g ∧
        (∀ m e m', Machine.run g.bytecode m = .error e m' →
          e.fault = .divisionByZero ∨ e.fault = .overflow) ∧
        ∀ before after, checked = before ++ after →
          ∃ g₁, Generate.events before (.start .bytecode none) = .ok () g₁ ∧
            g₁.bytecode.instructions <+: g.bytecode.instructions ∧
            ∀ m, Machine.execute g₁.bytecode.instructions 0 (Machine.loaded g.bytecode) = .ok () m →
              m.stack = [] := by
  have ha : ∀ e ∈ shadowingHistory, e.Admissible := by decide +kernel
  obtain ⟨⟨checked, c⟩, h⟩ := Except.exists_of_isOk
    (x := (Checker.start none).events shadowingHistory) (by decide +kernel)
  obtain ⟨g, hg, hrun, hstack⟩ := checked_code_cannot_go_wrong ha h none
  exact ⟨ha, checked, c, g, h, hg, hrun, hstack⟩

end DeskCalc
