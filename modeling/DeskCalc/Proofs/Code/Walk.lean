import DeskCalc.Proofs.Code.Fixpoint

/-!
One walk for all targets. A target says what is written for each step, and it can refuse a literal that
it cannot write; nothing else in the generator depends on it. So two targets that can write the
literals of a program are given the same steps in the same order, up to the end of the program or to
the same diagnostic. Main statement: `one_walk_for_both_targets`.
-/

namespace DeskCalc

/-! ### Generators that differ in the target -/

def Generator.aimed (g : Generator) (target : Target) : Generator :=
  { g with target }

namespace Generate

variable {α β : Type}

/-- The same result, with another target for the generator that it leaves. -/
def aimed (r : EStateM.Result Diagnostic Generator α) (target : Target) :
    EStateM.Result Diagnostic Generator α :=
  match r with
  | .ok a g => .ok a (g.aimed target)
  | .error d g => .error d (g.aimed target)

/-- **A computation that is blind to the target.** Any two targets that can write the literals come to
the same steps, slots and names, and to the same value or diagnostic. -/
def Blind (literals : List (String × Ty)) (x : Generate α) : Prop :=
  ∀ s t : Target, s.HoldsAll literals → t.HoldsAll literals →
    ∀ g : Generator, aimed (x (g.aimed s)) t = x (g.aimed t)

variable {literals more : List (String × Ty)} {x : Generate α} {f : α → Generate β}

/-- What is blind to the target with fewer literals is so with more of them. -/
theorem Blind.mono (h : Blind literals x) (hl : ∀ l ∈ literals, l ∈ more) : Blind more x :=
  fun s t hs ht => h s t (fun l hm => hs l (hl l hm)) (fun l hm => ht l (hl l hm))

theorem blind_pure (a : α) : Blind literals (pure a) :=
  fun _ _ _ _ _ => rfl

theorem Blind.bind (hx : Blind literals x) (hf : ∀ a, Blind literals (f a)) :
    Blind literals (x >>= f) := by
  intro s t hs ht g
  have hself := hx s s hs hs g
  show aimed (EStateM.bind x f (g.aimed s)) t = EStateM.bind x f (g.aimed t)
  unfold EStateM.bind
  rw [← hx s t hs ht g]
  cases hr : x (g.aimed s) with
  | error d g' => rfl
  | ok a g' =>
    -- the first computation leaves the target as it was
    rw [hr] at hself
    have htarget : g'.aimed s = g' := (EStateM.Result.ok.inj hself).2
    have hrest := hf a s t hs ht g'
    rw [htarget] at hrest
    exact hrest

/-! ### Actions of the generator -/

theorem blind_emit (step : Step) : Blind literals (emit step) :=
  fun _ _ _ _ _ => rfl

theorem blind_allocate (target : Identifier) (ty : Ty) : Blind literals (allocate target ty) := by
  intro s t _ _ g
  unfold allocate Generator.aimed
  cases g.scopes.declare target.name ⟨ty, some g.slotsUsed⟩ target.line g.file <;> rfl

theorem blind_resolve (name : String) (line : Nat) : Blind literals (resolve name line) := by
  intro s t _ _ g
  unfold resolve Generator.aimed
  cases g.scopes.resolve name line g.file <;> rfl

theorem blind_same (context : String) (left right : Ty) (line : Nat) :
    Blind literals (same context left right line) := by
  intro s t _ _ g
  unfold same Generator.aimed
  cases expectSame context left right line g.file <;> rfl

end Generate

/-- The steps of an expression, and what comes of them, do not depend on the target. -/
theorem Expr.generate_eq_of_holdsAll {s t : Target} (e : Expr) (hs : s.HoldsAll e.literals)
    (ht : t.HoldsAll e.literals) (scopes : Scopes) (file : String) :
    e.generate s scopes file = e.generate t scopes file := by
  induction e with
  | number text ty line =>
    have hs' : s.holds text ty = true := hs _ (List.mem_singleton_self _)
    have ht' : t.holds text ty = true := ht _ (List.mem_singleton_self _)
    simp only [generate, hs', ht', if_true]
  | symbol name line => rfl
  | binary left operator right line ihl ihr =>
    obtain ⟨hsl, hsr⟩ := Target.holdsAll_append.mp hs
    obtain ⟨htl, htr⟩ := Target.holdsAll_append.mp ht
    simp only [generate, ihl hsl htl, ihr hsr htr]
  | convert inner target line ih => simp only [generate, ih hs ht]

namespace Generate

theorem blind_expression (e : Expr) : Blind e.literals (expression e) := by
  intro s t hs ht g
  have hsteps := e.generate_eq_of_holdsAll hs ht g.scopes g.file
  unfold expression Generator.aimed
  simp only [hsteps]
  cases (e.generate t g.scopes g.file).verdict <;> rfl

/-! ### Statements and programs -/

/-- A value is put into a slot in the same way for all targets. -/
theorem blind_store (context : String) (slot : Nat) (ty : Ty) (value : Expr) (line : Nat) :
    Blind value.literals (do
      let received ← expression value
      same context ty received line
      emit (.store slot ty)) :=
  (blind_expression value).bind fun received =>
    (blind_same context ty received line).bind fun _ => blind_emit (.store slot ty)

/-- **A statement is blind to the target.** -/
theorem blind_statement (s : Stmt) : Blind s.literals (statement s) := by
  cases s with
  | declaration target ty value line =>
    cases value with
    | none => exact (blind_allocate target ty).bind fun _ => blind_pure ()
    | some value =>
      exact (blind_allocate target ty).bind fun slot => blind_store "declaration" slot ty value line
  | assignment target value line =>
    exact (blind_resolve target.name target.line).bind fun found =>
      blind_store "assignment" found.1 found.2 value line
  | print target line =>
    exact (blind_resolve target.name target.line).bind fun found =>
      blind_emit (.print found.1 found.2)

/-- Statements in order are blind to the target. -/
theorem blind_statements (body : List Stmt) :
    Blind (body.flatMap Stmt.literals) (statements body) := by
  induction body with
  | nil => exact blind_pure ()
  | cons s body ih =>
    have hfirst : Blind ((s :: body).flatMap Stmt.literals) (statement s) :=
      (blind_statement s).mono fun _ hl => List.mem_append_left _ hl
    have hrest : Blind ((s :: body).flatMap Stmt.literals) (statements body) :=
      ih.mono fun _ hl => List.mem_append_right _ hl
    exact hfirst.bind fun _ => hrest

theorem blind_program (p : Program) : Blind p.literals (program p) :=
  (blind_emit .preamble).bind fun _ => blind_statements p.body

end Generate

/-! ### Walks -/

/-- How a walk over a program went: the steps that it took, how many slots it gave, and the diagnostic
at which it stopped, if it did not come to the end. -/
structure Walk where
  steps : List Step
  slotsUsed : Nat
  verdict : Except Diagnostic Unit

def Walk.ofResult : EStateM.Result Diagnostic Generator Unit → Walk
  | .ok () g => ⟨g.steps, g.slotsUsed, .ok ()⟩
  | .error d g => ⟨g.steps, g.slotsUsed, .error d⟩

theorem Walk.ofResult_aimed (r : EStateM.Result Diagnostic Generator Unit) (target : Target) :
    ofResult (Generate.aimed r target) = ofResult r := by
  cases r <;> rfl

namespace Program

def walk (p : Program) (target : Target) (file : Option String) : Walk :=
  .ofResult (Generate.program p (.start target file))

theorem walk_eq_of_holdsAll {p : Program} {s t : Target} (hs : s.HoldsAll p.literals)
    (ht : t.HoldsAll p.literals) (file : Option String) : p.walk s file = p.walk t file := by
  have hblind := Generate.blind_program p s t hs ht (.start s file)
  have hwalk : p.walk t file = .ofResult (Generate.aimed (Generate.program p (.start s file)) t) :=
    congrArg Walk.ofResult hblind.symm
  rw [hwalk, Walk.ofResult_aimed]
  rfl

/-- The output of a program is its walk, written for the target. -/
theorem compile_eq_walk (p : Program) (file : Option String) (options : Options) :
    p.compile file options = (p.walk options.target file).verdict.map fun _ =>
      match options.target with
      | .dc => dcText options.precision (p.walk options.target file).steps
      | .bytecode =>
        (Bytecode.ofSteps (p.walk options.target file).slotsUsed
          (p.walk options.target file).steps).written := by
  obtain ⟨target, precision⟩ := options
  cases hr : Generate.program p (.start target file) with
  | error d g => simp only [compile, generate, walk, hr, Walk.ofResult, Except.map]
  | ok u g =>
    have hg : generate p target file = .ok g := by simp only [generate, hr]
    have htarget : g.target = target := (generate_eq_ok_iff.mp hg).target_eq
    simp only [compile, hg, walk, hr, Walk.ofResult, Except.map, Generator.output, htarget]
    cases target <;> rfl

end Program

/-- **One walk, two targets.** If every literal of a program stands for a number of its type, the
calculator and the machine are given the same steps and slots, up to the end of the program or to the
same diagnostic; and what comes out for either of them is that one walk, written for the target. -/
theorem one_walk_for_both_targets {p : Program} (hl : ∀ l ∈ p.literals, l.2.admits l.1 = true)
    (file : Option String) (precision : Nat) :
    ∃ walk : Walk, (∀ target, p.walk target file = walk) ∧
      p.compile file ⟨.dc, precision⟩ = walk.verdict.map (fun _ => dcText precision walk.steps) ∧
      p.compile file ⟨.bytecode, precision⟩ =
        walk.verdict.map fun _ => (Bytecode.ofSteps walk.slotsUsed walk.steps).written := by
  have hmachine : Target.bytecode.HoldsAll p.literals := hl
  have hsame : ∀ target, p.walk target file = p.walk .bytecode file := by
    intro target
    cases target with
    | dc => exact Program.walk_eq_of_holdsAll (Target.holdsAll_dc _) hmachine file
    | bytecode => rfl
  refine ⟨p.walk .bytecode file, hsame, ?_, p.compile_eq_walk file ⟨.bytecode, precision⟩⟩
  rw [← hsame .dc]
  exact p.compile_eq_walk file ⟨.dc, precision⟩

/-- A program in which a conversion is missing: `int a = 7;`, then `float b = a * 0.5;`. -/
def unconvertedProgram : Program :=
  ⟨[.declaration ⟨"a", 1⟩ .int (some (.number "7" .int 1)) 1,
    .declaration ⟨"b", 2⟩ .float
      (some (.binary (.symbol "a" 2) .mul (.number "0.5" .float 2) 2)) 2], 1⟩

/-- Both targets stop at the product, after the same steps. -/
theorem one_walk_for_both_targets_unconverted :
    (∀ l ∈ unconvertedProgram.literals, l.2.admits l.1 = true) ∧
      ∃ d : Diagnostic, d.cause = .uncheckedTypeMismatch "operands of `*`" "int" "float" ∧
        (∀ target, unconvertedProgram.walk target none =
          ⟨[.preamble, .literal "7" .int, .store 0 .int, .load 0 .int, .literal "0.5" .float], 2,
            .error d⟩) ∧
        unconvertedProgram.compile none ⟨.dc, 20⟩ = .error d ∧
        unconvertedProgram.compile none ⟨.bytecode, 20⟩ = .error d := by
  have hl : ∀ l ∈ unconvertedProgram.literals, l.2.admits l.1 = true := by decide +kernel
  obtain ⟨walk, hsame, hdc, hbytecode⟩ := one_walk_for_both_targets hl none 20
  refine ⟨hl, ⟨.uncheckedTypeMismatch "operands of `*`" "int" "float", 2, "shell"⟩, rfl, ?_⟩
  have hwalk : walk = ⟨[.preamble, .literal "7" .int, .store 0 .int, .load 0 .int,
      .literal "0.5" .float], 2,
      .error ⟨.uncheckedTypeMismatch "operands of `*`" "int" "float", 2, "shell"⟩⟩ := by
    rw [← hsame .dc]
    rfl
  rw [hwalk] at hsame hdc hbytecode
  exact ⟨hsame, hdc, hbytecode⟩

end DeskCalc
