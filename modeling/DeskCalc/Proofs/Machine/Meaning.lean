import DeskCalc.Proofs.Machine.Simulation
import DeskCalc.Proofs.Parse.Source

/-!
What a program means is what the machine does. Statement by statement the machine stays in step with
the evaluation, so a run of the code ends as the evaluation of the tree ends; and checking keeps the
meaning of the tree that was read. Main statements: the code of a tree does what the tree means
(`verdict_run_bytecode`), and so does the code of a source text (`checkSource_preserves_meaning`).
-/

namespace DeskCalc

/-! ### Runs of statements -/

namespace Stmt

open Machine

variable {g g' : Generator} {s : Stmt} {body : List Stmt} {types : List Ty} {m : Machine}
  {ev : Evaluation}

theorem Emits.slotsUsed_le (h : s.Emits g g') : g.slotsUsed ≤ g'.slotsUsed := by
  cases h with
  | declaration => exact Nat.le_succ _
  | initialised => exact Nat.le_succ _
  | assignment => exact Nat.le_refl _
  | print => exact Nat.le_refl _

theorem AllEmit.slotsUsed_le (h : AllEmit g body g') : g.slotsUsed ≤ g'.slotsUsed := by
  induction h with
  | nil => exact Nat.le_refl _
  | cons hs _ ih => exact Nat.le_trans hs.slotsUsed_le ih

/-- The slots that a statement takes are those of the names that it declares. -/
theorem Emits.fits (h : s.Emits g g') (hf : g.Fits types) : g'.Fits (types ++ s.slotTypes) := by
  cases h with
  | declaration => exact hf.allocated _ _
  | initialised => exact (hf.allocated _ _).took _
  | assignment =>
    rw [slotTypes, List.append_nil]
    exact hf.took _
  | print =>
    rw [slotTypes, List.append_nil]
    exact hf.took _

/-- Steps are taken behind those that were taken before. -/
theorem Emits.steps_le (h : s.Emits g g') : g.steps <+: g'.steps := by
  cases h with
  | declaration => exact List.prefix_rfl
  | initialised => exact List.prefix_append _ _
  | assignment => exact List.prefix_append _ _
  | print => exact List.prefix_append _ _

theorem AllEmit.steps_le (h : AllEmit g body g') : g.steps <+: g'.steps := by
  induction h with
  | nil => exact List.prefix_rfl
  | cons hs _ ih => exact hs.steps_le.trans ih

/-- The steps of statements are those of the first one and behind them those of the others. -/
theorem Emits.split_steps {g₁ : Generator} (h : s.Emits g g₁) (hrest : AllEmit g₁ body g')
    {steps : List Step} (hsteps : g'.steps = g.steps ++ steps) :
    ∃ first more, steps = first ++ more ∧ g₁.steps = g.steps ++ first ∧
      g'.steps = g₁.steps ++ more := by
  obtain ⟨first, hfirst⟩ := h.steps_le
  obtain ⟨more, hmore⟩ := hrest.steps_le
  rw [← hmore, ← hfirst, List.append_assoc] at hsteps
  exact ⟨first, more, (List.append_cancel_left hsteps).symm, hfirst.symm, hmore.symm⟩

/-- **The code of statements prints what the statements print**, and stops with the same fault. -/
theorem AllEmit.follow_eq (h : AllEmit g body g') (ht : g.target = .bytecode)
    (hw : ∀ s ∈ body, s.OnlyWidens) (hf : g.Fits types) (hm : m.Agrees g.scopes types ev)
    (hs : g'.slotsUsed ≤ m.slots.size) {steps : List Step} (hsteps : g'.steps = g.steps ++ steps) :
    (follow (instructions steps) m).map Machine.output =
      (evaluateAll body ev).map Evaluation.printed := by
  induction h generalizing types m ev steps with
  | nil =>
    obtain rfl : steps = [] := by simpa using hsteps
    exact congrArg Except.ok hm.printed
  | @cons g g₁ g' s body hs₁ hrest ih =>
    rw [List.forall_mem_cons] at hw
    have hle := Nat.le_trans hrest.slotsUsed_le hs
    obtain ⟨first, more, rfl, hfirst, hmore⟩ := hs₁.split_steps hrest hsteps
    obtain ⟨hok, herr⟩ := hs₁.simulate ht hw.1 hf hm hle hfirst
    rw [instructions_append, follow_append, evaluateAll, List.foldlM_cons]
    cases hev : s.evaluate ev with
    | error f =>
      rw [herr f hev]
      rfl
    | ok ev₁ =>
      obtain ⟨m₁, hm₁, hagrees, -, hsize⟩ := hok ev₁ hev
      rw [hm₁]
      exact ih (hs₁.target_eq.trans ht) hw.2 (hs₁.fits hf) hagrees (hsize ▸ hs) hmore

end Stmt

/-! ### Runs of programs -/

namespace Machine

/-- What came of a run, without the number of the instruction at which it stopped. -/
def verdict {α : Type} : EStateM.Result RuntimeError Machine α → Except Fault α
  | .ok a _ => .ok a
  | .error e _ => .error e.fault

theorem verdict_eq_ok_iff {α : Type} {r : EStateM.Result RuntimeError Machine α} {a : α} :
    verdict r = .ok a ↔ ∃ m, r = .ok a m := by
  cases r with
  | ok a m => simp [verdict]
  | error e m => simp [verdict]

theorem verdict_run (b : Bytecode) (m : Machine) :
    verdict (run b m) = (follow b.instructions (loaded b)).map output := by
  unfold run
  cases h : execute b.instructions 0 (loaded b) with
  | ok u m' =>
    rw [execute_eq_ok_iff.mp h]
    rfl
  | error e m' =>
    rw [fault_of_execute h]
    rfl

end Machine

/-- **The code of a tree does what the tree means.** -/
theorem verdict_run_bytecode {p : Program} {file : Option String} {g : Generator}
    (hg : generate p .bytecode file = .ok g) (hw : ∀ s ∈ p.body, s.OnlyWidens) (m : Machine) :
    Machine.verdict (Machine.run g.bytecode m) = p.evaluate := by
  have hg := generate_eq_ok_iff.mp hg
  obtain ⟨steps, hsteps⟩ := hg.steps_le
  -- the preamble is no instruction of the machine
  have hcode : g.bytecode.instructions = instructions steps := by
    rw [Generator.instructions_bytecode, ← hsteps]
    rfl
  have hfits : ((Generator.start .bytecode file).took [.preamble]).Fits [] :=
    (Generator.fits_start ..).took _
  have hslots : g.slotsUsed ≤ (Machine.loaded g.bytecode).slots.size := Nat.le_of_eq g.size_loaded.symm
  rw [Machine.verdict_run, hcode]
  exact hg.follow_eq rfl hw hfits (Machine.agrees_loaded _) hslots hsteps.symm

/-! ### Source texts -/

/-- A source text that passes the check is a tree that is accepted. -/
theorem accepted_of_checkSource {source : String} {file : Option String} {q : Program}
    (h : checkSource source file = .ok q) :
    ∃ p n scopes, parse source file = .ok p ∧ Stmt.AllAccepted .start p.body q.body n scopes := by
  obtain ⟨p, hp, hq⟩ := Except.bind_eq_ok_iff.mp h
  obtain ⟨⟨⟩, hv, rfl⟩ := Except.map_eq_ok_iff.mp hq
  obtain ⟨scopes, ha⟩ := Program.accepted_of_verdict hv
  exact ⟨p, _, scopes, hp, ha⟩

section Source

variable {source : String} {file : Option String} {p q : Program} {n : Nat} {scopes : Scopes}
  (hp : parse source file = .ok p) (ha : Stmt.AllAccepted .start p.body q.body n scopes)

include hp

theorem onlyWidens_of_parse : ∀ s ∈ p.body, s.OnlyWidens :=
  fun _ hs _ he => (plain_of_parse hp hs he).onlyWidens

include ha

theorem spelled_of_accepted : Spelled q.literals := by
  have hl : q.literals = p.literals := ha.literals
  rw [hl]
  exact spelled_of_parse hp

/-- Code is generated for the checked tree of a source text. -/
theorem exists_generate_of_accepted (target : Target) (file' : Option String) :
    ∃ g, generate q target file' = .ok g := by
  refine exists_generate_iff.mpr ⟨⟨scopes, ha.idempotent⟩, fun l hl => ?_⟩
  cases target with
  | dc => rfl
  | bytecode => exact (spelled_of_accepted hp ha l hl).1

/-- The conversions in the checked tree of a source text change nothing that it prints. -/
theorem evaluate_of_accepted : q.evaluate = p.evaluate := by
  have heval := ha.evaluateAll_eq (onlyWidens_of_parse hp)
    (Scopes.typed_start Evaluation.start.values)
  rw [Program.evaluate, heval, Program.evaluate]

end Source

/-- **Compilation preserves meaning.** The code of a source text that passes the check prints, on any
machine, the values that the tree of the source text evaluates to, before any conversion was put
into it; or both stop with the same fault. -/
theorem checkSource_preserves_meaning {source : String} {file : Option String} {q : Program}
    (h : checkSource source file = .ok q) (file' : Option String) :
    ∃ p b, parse source file = .ok p ∧ q.bytecode file' = .ok b ∧
      ∀ m, Machine.verdict (Machine.run b m) = p.evaluate := by
  obtain ⟨p, n, scopes, hp, ha⟩ := accepted_of_checkSource h
  obtain ⟨g, hg⟩ := exists_generate_of_accepted hp ha .bytecode file'
  refine ⟨p, g.bytecode, hp, ?_, fun m => ?_⟩
  · rw [Program.bytecode, hg]
    rfl
  · have hw := ha.onlyWidens (onlyWidens_of_parse hp)
    rw [verdict_run_bytecode hg hw, evaluate_of_accepted hp ha]

/-- Both types, a variable that is read before it is set, and a quotient that is cut off and then
widened. -/
def mixedSource : String :=
  "int i = 7; float f = i / 2 + f; int u; f = f * u - i / 2.0; print f; u = i / (u - 3); print u;"

theorem checkSource_preserves_meaning_mixed :
    ∃ (q p : Program) (b : Bytecode), checkSource mixedSource none = .ok q ∧
      q.bytecode none = .ok b ∧ (∀ m, Machine.verdict (Machine.run b m) = p.evaluate) ∧
      p.evaluate.toOption.map (·.map Value.written) = some ["-3.5", "-2"] := by
  obtain ⟨q, hq⟩ := Except.exists_of_isOk (x := checkSource mixedSource none) (by decide +kernel)
  obtain ⟨p, b, hp, hb, hrun⟩ := checkSource_preserves_meaning hq none
  refine ⟨q, p, b, hq, hb, hrun, ?_⟩
  have hprinted : ((parse mixedSource none).toOption.bind fun p =>
      p.evaluate.toOption.map (·.map Value.written)) = some ["-3.5", "-2"] := by decide +kernel
  rw [hp] at hprinted
  exact hprinted

end DeskCalc
