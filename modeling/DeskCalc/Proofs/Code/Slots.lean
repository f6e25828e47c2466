import DeskCalc.Proofs.Code.Backend
import DeskCalc.Proofs.Code.Emission

/-!
Slots of variables. Whatever is asked of a driver and however it ends, its history is possible, and its
generator agrees with the history on the names in scope and on the number of slots; a step is about a
slot that was given before, with the type that it was given for. Each action keeps this
(`Drive.keeps_statement`), so it holds after any calls (`Driver.sound_run`). Main statement:
`slots_given_once`.
-/

namespace DeskCalc

open History (allocations Open)

/-- The slot that a step is about, with the type of the variable in it. -/
def Step.variable? : Step → Option (Nat × Ty)
  | .load slot ty => some (slot, ty)
  | .store slot ty => some (slot, ty)
  | .print slot ty => some (slot, ty)
  | _ => none

/-- The slot was given to a variable of the type. -/
def History.Given (h : History) (slot : Nat) (ty : Ty) : Prop :=
  ∃ name, ⟨name, ty, slot⟩ ∈ allocations h

/-- The step is about no slot, or about one that was given to a variable of its type. -/
def History.Backs (h : History) (step : Step) : Prop :=
  ∀ found ∈ step.variable?, h.Given found.1 found.2

/-- **What holds of a driver at all times**, for the target and the file that it had at first. -/
structure Driver.Sound {b : Backend} (origin d : Driver b) : Prop where
  target_eq : d.generator.target = origin.generator.target
  file_eq : d.generator.file = origin.generator.file
  possible : History.Possible d.history
  scopes_eq : d.generator.scopes = History.scopes d.history
  slotsUsed_eq : d.generator.slotsUsed = (allocations d.history).length
  backs : ∀ step ∈ d.generator.steps, d.history.Backs step

namespace History

variable {h : History} {name : String} {slot : Nat} {ty : Ty}

/-- What a name in scope stands for was given to it. -/
theorem given_of_lookup (hl : (scopes h).lookup name = some ⟨ty, some slot⟩) :
    h.Given slot ty := by
  have hmem := (entries_sublist h).subset (Scopes.mem_entries_of_lookup hl)
  obtain ⟨⟨_, _, _⟩, ha, heq⟩ := List.mem_map.mp hmem
  cases heq
  exact ⟨_, ha⟩

theorem Given.slot_lt (hg : h.Given slot ty) (hp : Possible h) :
    slot < (allocations h).length := by
  obtain ⟨name, ha⟩ := hg
  exact hp.slot_lt ha

/-- A step about a slot that was given for its type has it to back it. -/
theorem Given.backs (hg : h.Given slot ty) {step : Step} (hs : step.variable? = some (slot, ty)) :
    h.Backs step := by
  intro found hf
  rw [hs] at hf
  cases hf
  exact hg

/-- A step about no slot needs none. -/
theorem backs_of_none {step : Step} (hs : step.variable? = none) : h.Backs step := by
  intro found hf
  rw [hs] at hf
  cases hf

theorem Backs.allocated {step : Step} (hs : h.Backs step) (a : Allocation) :
    Backs (.allocated a :: h) step := by
  intro found hf
  obtain ⟨name, ha⟩ := hs found hf
  exact ⟨name, List.mem_cons_of_mem a ha⟩

end History

namespace Driver

variable {b : Backend} {origin d : Driver b}

theorem sound_start (b : Backend) (state : b.State) (target : Target) (file : Option String) :
    Sound (start b state target file) (start b state target file) where
  target_eq := rfl
  file_eq := rfl
  possible := .start
  scopes_eq := rfl
  slotsUsed_eq := rfl
  backs := fun _ h => absurd h List.not_mem_nil

/-- A driver that has taken a step about a slot that was given. -/
theorem Sound.took (hd : Sound origin d) {step : Step} (hs : d.history.Backs step) (state : b.State) :
    Sound origin
      { d with
        generator := { d.generator with steps := d.generator.steps ++ [step] }
        state } where
  target_eq := hd.target_eq
  file_eq := hd.file_eq
  possible := hd.possible
  scopes_eq := hd.scopes_eq
  slotsUsed_eq := hd.slotsUsed_eq
  backs := List.forall_mem_append.mpr ⟨hd.backs, List.forall_mem_singleton.mpr hs⟩

theorem Sound.entered (hd : Sound origin d) :
    Sound origin
      { d with
        generator := { d.generator with scopes := d.generator.scopes.enter }
        history := .entered :: d.history } where
  target_eq := hd.target_eq
  file_eq := hd.file_eq
  possible := hd.possible.entered
  scopes_eq := congrArg Scopes.enter hd.scopes_eq
  slotsUsed_eq := hd.slotsUsed_eq
  backs := hd.backs

theorem Sound.left (hd : Sound origin d) {scopes : Scopes}
    (hs : d.generator.scopes.exit? = some scopes) :
    Sound origin
      { d with
        generator := { d.generator with scopes }
        history := .left :: d.history } where
  target_eq := hd.target_eq
  file_eq := hd.file_eq
  possible := by
    refine hd.possible.left fun hnone => ?_
    rw [hd.scopes_eq, Scopes.exit?, hnone] at hs
    cases hs
  scopes_eq := by
    rw [History.scopes, ← hd.scopes_eq, Scopes.leave, hs]
    rfl
  slotsUsed_eq := hd.slotsUsed_eq
  backs := hd.backs

theorem Sound.allocated (hd : Sound origin d) {name : String}
    (hn : d.generator.scopes.inner.lookup name = none) (ty : Ty) :
    Sound origin
      { d with
        generator := d.generator.allocated name ty
        history := .allocated ⟨name, ty, d.generator.slotsUsed⟩ :: d.history } where
  target_eq := hd.target_eq
  file_eq := hd.file_eq
  possible := by
    rw [hd.scopes_eq] at hn
    exact hd.possible.allocated hn hd.slotsUsed_eq
  scopes_eq := by
    rw [History.scopes, ← hd.scopes_eq]
    rfl
  slotsUsed_eq := congrArg Nat.succ hd.slotsUsed_eq
  backs := fun step hs => (hd.backs step hs).allocated _

end Driver

namespace Generate

variable {g g' : Generator} {e : Diagnostic}

/-- A variable is refused if the innermost scope has its name, and then nothing changes. -/
theorem allocate_eq_error {v : Identifier} {ty : Ty} (h : allocate v ty g = .error e g') :
    g.scopes.inner.lookup v.name ≠ none ∧ g' = g := by
  unfold allocate at h
  split at h
  · cases h
  · rename_i hd
    cases h
    refine ⟨fun hn => ?_, rfl⟩
    rw [Scopes.declare_eq_ok_iff.mpr ⟨hn, rfl⟩] at hd
    cases hd

theorem resolve_eq_error {name : String} {line : Nat} (h : resolve name line g = .error e g') :
    e = ⟨.unboundSymbol name, line, g.file⟩ ∧ g' = g := by
  unfold resolve Scopes.resolve at h
  split at h
  · cases h
  · rename_i hr
    cases h
    split at hr <;> cases hr
    exact ⟨rfl, rfl⟩

end Generate

namespace Drive

variable {b : Backend} {α β : Type}

/-- **The action keeps a driver sound**, be it answered or refused; where it is answered, what held of
the history before leaves what is said of the value and the history then. -/
def Keeps (origin : Driver b) (P : History → Prop) (x : Drive b α) (Q : α → History → Prop) :
    Prop :=
  ∀ d, Driver.Sound origin d → P d.history →
    match x d with
    | .ok a d' => Driver.Sound origin d' ∧ Q a d'.history
    | .error _ d' => Driver.Sound origin d'

variable {origin : Driver b} {P : History → Prop} {Q : α → History → Prop} {S : β → History → Prop}
  {x : Drive b α} {f : α → Drive b β}

theorem keeps_pure {a : α} (hq : ∀ h, P h → Q a h) : Keeps origin P (pure a) Q :=
  fun _ hd hp => ⟨hd, hq _ hp⟩

theorem Keeps.bind (hx : Keeps origin P x Q) (hf : ∀ a, Keeps origin (Q a) (f a) S) :
    Keeps origin P (x >>= f) S := by
  intro d hd hp
  have hfirst := hx d hd hp
  show match EStateM.bind x f d with
    | .ok a d' => Driver.Sound origin d' ∧ S a d'.history
    | .error _ d' => Driver.Sound origin d'
  unfold EStateM.bind
  cases hr : x d with
  | error e d' =>
    rw [hr] at hfirst
    exact hfirst
  | ok a d' =>
    rw [hr] at hfirst
    exact hf a d' hfirst.1 hfirst.2

/-- What is said of the value and the history may be forgotten. -/
theorem Keeps.forget (hx : Keeps origin P x Q) : Keeps origin P x fun _ _ => True := by
  intro d hd hp
  have hkept := hx d hd hp
  cases hr : x d with
  | error e d' =>
    rw [hr] at hkept
    exact hkept
  | ok a d' =>
    rw [hr] at hkept
    exact ⟨hkept.1, trivial⟩

theorem keeps_take {step : Step} (hs : ∀ h, P h → h.Backs step) :
    Keeps origin P (take step) fun _ => P :=
  fun d hd hp => ⟨hd.took (hs d.history hp) _, hp⟩

theorem keeps_literal (text : String) (ty : Ty) (line : Nat) :
    Keeps origin P (literal text ty line) fun _ => P := by
  intro d hd hp
  unfold literal
  rcases b.literal text ty line d.state with ⟨_ | _, state⟩
  · exact { hd with }
  · exact ⟨hd.took (History.backs_of_none rfl) state, hp⟩

theorem keeps_resolve (name : String) (line : Nat) :
    Keeps origin P (lift (Generate.resolve name line))
      fun found h => h.Given found.1 found.2 ∧ P h := by
  intro d hd hp
  unfold lift
  cases hr : Generate.resolve name line d.generator with
  | error e g =>
    obtain ⟨-, rfl⟩ := Generate.resolve_eq_error hr
    exact hd
  | ok found g =>
    obtain ⟨hl, rfl⟩ := Generate.resolve_eq_ok_iff.mp hr
    rw [hd.scopes_eq] at hl
    exact ⟨hd, History.given_of_lookup hl, hp⟩

theorem keeps_same (context : String) (left right : Ty) (line : Nat) :
    Keeps origin P (lift (Generate.same context left right line)) fun _ => P := by
  intro d hd hp
  unfold lift Generate.same
  cases expectSame context left right line d.generator.file with
  | error e => exact hd
  | ok u => exact ⟨hd, hp⟩

theorem keeps_allocate (v : Identifier) (ty : Ty) :
    Keeps origin P (allocate v ty) fun slot h => h.Given slot ty := by
  intro d hd _
  unfold allocate
  cases hr : Generate.allocate v ty d.generator with
  | error e g =>
    obtain ⟨-, rfl⟩ := Generate.allocate_eq_error hr
    exact hd
  | ok slot g =>
    obtain ⟨hn, rfl, rfl⟩ := Generate.allocate_eq_ok_iff.mp hr
    exact ⟨hd.allocated hn ty, v.name, List.mem_cons_self⟩

theorem keeps_enter : Keeps origin P enter fun _ _ => True :=
  fun _ hd _ => ⟨hd.entered, trivial⟩

theorem keeps_leave : Keeps origin P leave fun _ _ => True := by
  intro d hd _
  unfold leave
  cases hs : d.generator.scopes.exit? with
  | none => exact ⟨hd, trivial⟩
  | some scopes => exact ⟨hd.left hs, trivial⟩

/-- **The steps of an expression keep a driver sound**, and no variable is declared in it. -/
theorem keeps_expression (e : Expr) : Keeps origin P (expression e) fun _ => P := by
  induction e with
  | number text ty line =>
    exact (keeps_literal text ty line).bind fun _ => keeps_pure fun _ h => h
  | symbol name line =>
    refine (keeps_resolve name line).bind fun found => ?_
    -- the slot that was found is one that was given, and so the load is backed
    refine (keeps_take fun _ h => h.1.backs rfl).bind fun _ => ?_
    exact keeps_pure fun _ h => h.2
  | binary left operator right line ihl ihr =>
    refine ihl.bind fun lt => ihr.bind fun rt => ?_
    refine (keeps_same _ lt rt line).bind fun _ => ?_
    refine (keeps_take fun _ _ => History.backs_of_none rfl).bind fun _ => ?_
    exact keeps_pure fun _ h => h
  | convert inner ty line ih =>
    refine ih.bind fun received => ?_
    refine (keeps_take fun _ _ => History.backs_of_none rfl).bind fun _ => ?_
    exact keeps_pure fun _ h => h

/-- A value is put into a slot that was given for its type. -/
theorem keeps_store {slot : Nat} {ty : Ty} (hg : ∀ h, P h → h.Given slot ty) (context : String)
    (value : Expr) (line : Nat) :
    Keeps origin P (store context slot ty value line) fun _ => P := by
  refine (keeps_expression value).bind fun received => ?_
  refine (keeps_same context ty received line).bind fun _ => ?_
  exact keeps_take fun h hp => (hg h hp).backs rfl

/-- **The steps of a statement keep a driver sound**, also where it is given up midway. -/
theorem keeps_statement (s : Stmt) : Keeps origin P (statement s) fun _ _ => True := by
  cases s with
  | declaration v ty value line =>
    cases value with
    | none => exact (keeps_allocate v ty).bind fun _ => keeps_pure fun _ _ => trivial
    | some value =>
      exact (keeps_allocate v ty).bind fun slot =>
        (keeps_store (fun _ h => h) "declaration" value line).forget
  | assignment v value line =>
    exact (keeps_resolve v.name v.line).bind fun found =>
      (keeps_store (fun _ h => h.1) "assignment" value line).forget
  | print v line =>
    exact (keeps_resolve v.name v.line).bind fun found =>
      (keeps_take fun _ h => h.1.backs rfl).forget

end Drive

/-! ### Calls -/

theorem Call.keeps_drive {b : Backend} (origin : Driver b) (call : Call) :
    Drive.Keeps origin (fun _ => True) call.drive fun _ _ => True := by
  cases call with
  | enter => exact Drive.keeps_enter
  | leave => exact Drive.keeps_leave.bind fun _ => Drive.keeps_pure fun _ h => h
  | allocate target ty =>
    exact (Drive.keeps_allocate target ty).forget.bind fun _ => Drive.keeps_pure fun _ h => h
  | resolve name line =>
    exact (Drive.keeps_resolve name line).forget.bind fun _ => Drive.keeps_pure fun _ h => h
  | expression e => exact (Drive.keeps_expression e).bind fun _ => Drive.keeps_pure fun _ h => h
  | statement s => exact Drive.keeps_statement s

namespace Driver

variable {b : Backend} {origin d : Driver b}

/-- **A call keeps a driver sound**, be it answered or refused. -/
theorem Sound.after (hd : Sound origin d) (call : Call) : Sound origin (d.after call) := by
  have hkept := call.keeps_drive origin d hd trivial
  unfold Driver.after
  cases hr : call.drive d with
  | error e d' =>
    rw [hr] at hkept
    exact hkept
  | ok a d' =>
    rw [hr] at hkept
    exact hkept.1

/-- **Calls keep a driver sound.** -/
theorem Sound.run (hd : Sound origin d) (calls : List Call) : Sound origin (d.run calls) := by
  induction calls generalizing d with
  | nil => exact hd
  | cons call calls ih => exact ih (hd.after call)

/-- After any calls to a new driver, it is sound. -/
theorem sound_run_start (state : b.State) (target : Target) (file : Option String)
    (calls : List Call) :
    Sound (start b state target file) ((start b state target file).run calls) :=
  (sound_start b state target file).run calls

/-! ### What a sound driver answers -/

/-- **The names in scope have different slots**, all of which were given. -/
theorem Sound.bindings (hd : Sound origin d) :
    (d.generator.scopes.entries.map (·.2.slot?)).Nodup ∧
      ∀ entry ∈ d.generator.scopes.entries,
        ∃ slot < d.generator.slotsUsed, entry.2.slot? = some slot := by
  have hsub := History.entries_sublist d.history
  rw [← hd.scopes_eq] at hsub
  constructor
  · have hslots : ((allocations d.history).map Allocation.entry).map (·.2.slot?) =
        ((allocations d.history).map Allocation.slot).map some := by
      rw [List.map_map, List.map_map]
      rfl
    refine (hsub.map _).nodup ?_
    rw [hslots]
    exact hd.possible.slots_nodup.map fun _ _ h => Option.some.inj h
  · intro entry he
    obtain ⟨a, ha, rfl⟩ := List.mem_map.mp (hsub.subset he)
    exact ⟨a.slot, hd.slotsUsed_eq ▸ hd.possible.slot_lt ha, rfl⟩

/-- **A name is resolved to its innermost open declaration.** -/
theorem Sound.resolve_eq_ok_iff (hd : Sound origin d) {name : String} {line slot : Nat} {ty : Ty} :
    Generate.resolve name line d.generator = .ok (slot, ty) d.generator ↔
      d.history.Innermost ⟨name, ty, slot⟩ := by
  rw [Generate.resolve_eq_ok_iff, hd.scopes_eq, hd.possible.lookup_eq_some_iff]
  exact and_iff_left rfl

/-- A name without an open declaration is not resolved. -/
theorem Sound.resolve_eq_error (hd : Sound origin d) {name : String} (line : Nat)
    (hnone : ∀ a around, Open a d.history around → a.name ≠ name) :
    Generate.resolve name line d.generator =
      .error ⟨.unboundSymbol name, line, origin.generator.file⟩ d.generator := by
  cases hr : Generate.resolve name line d.generator with
  | error e g =>
    obtain ⟨rfl, rfl⟩ := Generate.resolve_eq_error hr
    rw [hd.file_eq]
  | ok found g =>
    obtain ⟨-, rfl⟩ := Generate.resolve_eq_ok_iff.mp hr
    obtain ⟨around, ho, -⟩ := hd.resolve_eq_ok_iff.mp hr
    exact absurd rfl (hnone _ around ho)

/-- A variable is given the next slot only if no declaration in the innermost scope has its name. -/
theorem Sound.allocate_eq_ok (hd : Sound origin d) {v : Identifier} {ty : Ty} {slot : Nat}
    {g : Generator} (h : Generate.allocate v ty d.generator = .ok slot g) :
    slot = (allocations d.history).length ∧ ∀ a, Open a d.history 0 → a.name ≠ v.name := by
  obtain ⟨hn, hslot, -⟩ := Generate.allocate_eq_ok_iff.mp h
  rw [hd.scopes_eq, hd.possible.inner_lookup_eq_none_iff] at hn
  exact ⟨hslot.trans hd.slotsUsed_eq, hn⟩

/-- A variable is refused only if a declaration in the innermost scope has its name. -/
theorem Sound.allocate_eq_error (hd : Sound origin d) {v : Identifier} {ty : Ty} {e : Diagnostic}
    {g : Generator} (h : Generate.allocate v ty d.generator = .error e g) :
    g = d.generator ∧ ∃ a, Open a d.history 0 ∧ a.name = v.name := by
  obtain ⟨hn, hg⟩ := Generate.allocate_eq_error h
  rw [hd.scopes_eq, Ne, hd.possible.inner_lookup_eq_none_iff] at hn
  push Not at hn
  exact ⟨hg, hn⟩

end Driver

/-- **Slots are given once and stay.** Whatever calls a new driver has answered or refused, with
whatever backend: the variables that were given slots have been given `0`, `1`, `2` and so on up to the
number of slots; a variable is refused only for its name in the innermost scope, and then the generator
is as it was; the names in all open scopes have different slots below the number of slots; a name is
resolved to its innermost open declaration; and every step is about a slot below the number of slots,
with the type that the slot was given for. With a backend that refuses the literals that the target does
not hold, this is what the generator for the target does. -/
theorem slots_given_once (b : Backend) (state : b.State) (target : Target) (file : Option String)
    (calls : List Call) :
    let d := (Driver.start b state target file).run calls
    let g := d.generator
    (allocations d.history).reverse.map Allocation.slot = List.range g.slotsUsed ∧
    (∀ v ty slot g', Generate.allocate v ty g = .ok slot g' →
      slot = (allocations d.history).length ∧ ∀ a, Open a d.history 0 → a.name ≠ v.name) ∧
    (∀ v ty e g', Generate.allocate v ty g = .error e g' →
      g' = g ∧ ∃ a, Open a d.history 0 ∧ a.name = v.name) ∧
    (g.scopes.entries.map (·.2.slot?)).Nodup ∧
    (∀ entry ∈ g.scopes.entries, ∃ slot < g.slotsUsed, entry.2.slot? = some slot) ∧
    (∀ name line slot ty, Generate.resolve name line g = .ok (slot, ty) g ↔
      d.history.Innermost ⟨name, ty, slot⟩) ∧
    (∀ name line, (∀ a around, Open a d.history around → a.name ≠ name) →
      Generate.resolve name line g = .error ⟨.unboundSymbol name, line, file.getD defaultFile⟩ g) ∧
    (∀ step ∈ g.steps, ∀ slot ty, step.variable? = some (slot, ty) →
      slot < g.slotsUsed ∧ ∃ name, ⟨name, ty, slot⟩ ∈ allocations d.history) ∧
    (b.Answers target →
      (∀ e, Generate.expression e g = Drive.generated (Drive.expression e d)) ∧
      ∀ s, Generate.statement s g = Drive.generated (Drive.statement s d)) := by
  intro d g
  have hd : Driver.Sound (.start b state target file) d :=
    Driver.sound_run_start state target file calls
  refine ⟨?_, fun _ _ _ _ h => hd.allocate_eq_ok h, fun _ _ _ _ h => hd.allocate_eq_error h,
    hd.bindings.1, hd.bindings.2, fun _ _ _ _ => hd.resolve_eq_ok_iff,
    fun _ line h => hd.resolve_eq_error line h, ?_, fun hb => ⟨fun e => ?_, fun s => ?_⟩⟩
  · rw [hd.slotsUsed_eq]
    exact hd.possible.slots_eq_range
  · intro step hs slot ty hv
    have hgiven : d.history.Given slot ty := hd.backs step hs (slot, ty) hv
    exact ⟨hd.slotsUsed_eq ▸ hgiven.slot_lt hd.possible, hgiven⟩
  · exact (Drive.follows_expression hb e d hd.target_eq).1
  · exact (Drive.follows_statement hb s d hd.target_eq).1

/-- A backend that notes its steps, and refuses what the target does not hold. -/
def Backend.notes (target : Target) : Backend where
  State := List Step
  take step taken := taken ++ [step]
  literal text ty _ taken :=
    if target.holds text ty then (.ok (), taken ++ [.literal text ty])
    else (.error (.invalidLiteral text ty.name), taken)

theorem Backend.notes_answers (target : Target) : (notes target).Answers target := by
  intro text ty line taken
  show (if target.holds text ty then _ else _ : Except Cause Unit × List Step).1 = _
  cases target.holds text ty <;> rfl

/-- `int x = 1;`, then in a scope of its own `float x;`, a second `x`, which is refused, and
`int y = x;`, which is given up after `x` was loaded; the scope is left, and `x` is printed. -/
def shadowingCalls : List Call :=
  [.statement (.declaration ⟨"x", 1⟩ .int (some (.number "1" .int 1)) 1), .enter,
    .allocate ⟨"x", 2⟩ .float, .allocate ⟨"x", 3⟩ .int,
    .statement (.declaration ⟨"y", 4⟩ .int (some (.symbol "x" 4)) 4), .leave,
    .statement (.print ⟨"x", 5⟩ 5)]

/-- The outer `x` is what the name stands for again, `y` stands for nothing, and the slots of both
inner variables were given all the same. -/
theorem slots_given_once_shadowing :
    let d := (Driver.start (.notes .bytecode) [] .bytecode none).run shadowingCalls
    d.generator.slotsUsed = 3 ∧
    d.generator.steps =
      [.literal "1" .int, .store 0 .int, .load 1 .float, .print 0 .int] ∧
    d.history.Innermost ⟨"x", .int, 0⟩ ∧
    (allocations d.history).reverse.map Allocation.slot = [0, 1, 2] ∧
    (Backend.notes .bytecode).Answers .bytecode ∧
    ∀ s, Generate.statement s d.generator = Drive.generated (Drive.statement s d) := by
  intro d
  have hslots : d.generator.slotsUsed = 3 := by decide +kernel
  have hx : Generate.resolve "x" 9 d.generator = .ok (0, .int) d.generator :=
    Generate.resolve_eq_ok_iff.mpr ⟨by decide +kernel, rfl⟩
  have hanswers := Backend.notes_answers .bytecode
  obtain ⟨hgiven, -, -, -, -, hresolve, -, -, hsame⟩ :=
    slots_given_once (.notes .bytecode) [] .bytecode none shadowingCalls
  refine ⟨hslots, by decide +kernel, (hresolve "x" 9 0 .int).mp hx, ?_, hanswers,
    (hsame hanswers).2⟩
  exact hgiven.trans (congrArg List.range hslots)

end DeskCalc
