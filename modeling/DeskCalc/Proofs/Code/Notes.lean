import DeskCalc.Proofs.Code.Slots

/-!
What a backend is handed. A backend that notes its steps has noted, after any calls, the steps that the
generator has emitted, in their order (`Driver.Complete.run`): a step is never emitted without being handed on,
nor handed on twice. So what is known of the steps that were emitted is known of those that a backend was
given (`handed_steps_are_backed`).
-/

namespace DeskCalc

open History (allocations)

variable {t : Target} {α β : Type}

/-- The steps that the backend was handed and did not refuse. -/
def Driver.noted (d : Driver (.notes t)) : List Step :=
  d.state

/-- The backend has noted what the generator has emitted. -/
def Driver.Complete (d : Driver (.notes t)) : Prop :=
  d.noted = d.generator.steps

namespace Drive

/-- After the action the notes are complete if they were before, be it answered or refused. -/
def Notes (x : Drive (.notes t) α) : Prop :=
  ∀ d, d.Complete → (stateOf (x d)).Complete

theorem notes_pure (a : α) : Notes (t := t) (pure a) :=
  fun _ hd => hd

theorem Notes.bind {x : Drive (.notes t) α} {f : α → Drive (.notes t) β} (hx : Notes x)
    (hf : ∀ a, Notes (f a)) : Notes (x >>= f) :=
  fun d hd => stateOf_bind (hx d hd) fun a d' hd' => hf a d' hd'

theorem notes_take (step : Step) : Notes (t := t) (take step) := by
  intro d hd
  show d.noted ++ [step] = d.generator.steps ++ [step]
  rw [hd]

theorem notes_literal (text : String) (ty : Ty) (line : Nat) :
    Notes (t := t) (literal text ty line) := by
  intro d hd
  by_cases h : t.holds text ty
  · have hanswer : (Backend.notes t).literal text ty line d.state =
        (.ok (), d.noted ++ [.literal text ty]) := if_pos h
    unfold literal
    rw [hanswer]
    show d.noted ++ [.literal text ty] = d.generator.steps ++ [.literal text ty]
    rw [hd]
  · have hanswer : (Backend.notes t).literal text ty line d.state =
        (.error (.invalidLiteral text ty.name), d.state) := if_neg h
    unfold literal
    rw [hanswer]
    exact hd

theorem notes_resolve (name : String) (line : Nat) :
    Notes (t := t) (lift (Generate.resolve name line)) := by
  intro d hd
  unfold lift Generate.resolve
  cases d.generator.scopes.resolve name line d.generator.file <;> exact hd

theorem notes_same (context : String) (left right : Ty) (line : Nat) :
    Notes (t := t) (lift (Generate.same context left right line)) := by
  intro d hd
  unfold lift Generate.same
  cases expectSame context left right line d.generator.file <;> exact hd

theorem notes_allocate (v : Identifier) (ty : Ty) : Notes (t := t) (allocate v ty) := by
  intro d hd
  unfold allocate Generate.allocate
  cases d.generator.scopes.declare v.name ⟨ty, some d.generator.slotsUsed⟩ v.line
    d.generator.file <;> exact hd

theorem notes_enter : Notes (t := t) enter :=
  fun _ hd => hd

theorem notes_leave : Notes (t := t) leave := by
  intro d hd
  unfold leave
  cases d.generator.scopes.exit? <;> exact hd

theorem notes_expression (e : Expr) : Notes (t := t) (expression e) := by
  induction e with
  | number text ty line => exact (notes_literal text ty line).bind fun _ => notes_pure ty
  | symbol name line =>
    apply (notes_resolve name line).bind
    intro found
    exact (notes_take _).bind fun _ => notes_pure found.2
  | binary left operator right line ihl ihr =>
    apply ihl.bind
    intro lt
    apply ihr.bind
    intro rt
    apply (notes_same _ lt rt line).bind
    intro _
    exact (notes_take _).bind fun _ => notes_pure lt
  | convert inner ty line ih =>
    apply ih.bind
    intro received
    exact (notes_take _).bind fun _ => notes_pure ty

theorem notes_store (context : String) (slot : Nat) (ty : Ty) (value : Expr) (line : Nat) :
    Notes (t := t) (store context slot ty value line) := by
  apply (notes_expression value).bind
  intro received
  exact (notes_same context ty received line).bind fun _ => notes_take _

theorem notes_statement (s : Stmt) : Notes (t := t) (statement s) := by
  cases s with
  | declaration v ty value line =>
    cases value with
    | none => exact (notes_allocate v ty).bind fun _ => notes_pure ()
    | some value =>
      apply (notes_allocate v ty).bind
      intro slot
      exact notes_store "declaration" slot ty value line
  | assignment v value line =>
    apply (notes_resolve v.name v.line).bind
    intro found
    exact notes_store "assignment" found.1 found.2 value line
  | print v line =>
    apply (notes_resolve v.name v.line).bind
    intro found
    exact notes_take _

end Drive

theorem Call.notes_drive (call : Call) : Drive.Notes (t := t) call.drive := by
  cases call with
  | enter => exact Drive.notes_enter
  | leave => exact Drive.notes_leave.bind fun _ => Drive.notes_pure ()
  | allocate v ty => exact (Drive.notes_allocate v ty).bind fun _ => Drive.notes_pure ()
  | resolve name line => exact (Drive.notes_resolve name line).bind fun _ => Drive.notes_pure ()
  | expression e => exact (Drive.notes_expression e).bind fun _ => Drive.notes_pure ()
  | statement s => exact Drive.notes_statement s

/-- **Calls keep the notes complete.** -/
theorem Driver.Complete.run {d : Driver (.notes t)} (hd : d.Complete) (calls : List Call) :
    (d.run calls).Complete := by
  induction calls generalizing d with
  | nil => exact hd
  | cons call calls ih => exact ih (call.notes_drive d hd)

/-- **A backend is handed what the generator emits.** Whatever calls a new driver has answered or refused, the
backend has noted the steps of the generator, and each of them that is about a slot is about one below the
number of slots, with the type that the slot was given for. -/
theorem handed_steps_are_backed (target : Target) (file : Option String) (calls : List Call) :
    let d := (Driver.start (.notes target) [] target file).run calls
    d.noted = d.generator.steps ∧
    ∀ step ∈ d.noted, ∀ slot ty, step.variable? = some (slot, ty) →
      slot < d.generator.slotsUsed ∧ ∃ name, ⟨name, ty, slot⟩ ∈ allocations d.history := by
  intro d
  have hstart : (Driver.start (.notes target) [] target file).Complete := rfl
  have hnoted : d.noted = d.generator.steps := hstart.run calls
  have hd : Driver.Sound (.start (.notes target) [] target file) d :=
    Driver.sound_run_start (b := .notes target) [] target file calls
  refine ⟨hnoted, ?_⟩
  intro step hstep slot ty hv
  rw [hnoted] at hstep
  have hgiven : d.history.Given slot ty := hd.backs step hstep (slot, ty) hv
  exact ⟨hd.slotsUsed_eq ▸ hgiven.slot_lt hd.possible, hgiven⟩

end DeskCalc
