import DeskCalc.Compile
import DeskCalc.Proofs.Outcome
import DeskCalc.Proofs.Tree.Relabel

/-!
The generator and the labels of a tree. A step knows a variable by its slot, and a slot is given by the
order of the declarations; so no step depends on a name or on a line. With other labels the generator
takes the same steps and gives the same slots, and the output for either target is the same text
(`Program.compile_relabel`, `Program.bytecode_relabel`).
-/

namespace DeskCalc

variable {known : Set String} (ρ : Relabelling known)

/-- Steps taken with other labels: the same steps, and the same type or the diagnostic with other
labels. -/
def Steps.relabel {τ : Type} (r : Steps τ) : Steps τ :=
  ⟨r.steps, r.verdict.mapError (Diagnostic.relabel ρ)⟩

/-! ### Expressions -/

theorem Scopes.resolve_relabel {s : Scopes} (hs : s.Within known) {name : String}
    (hn : name ∈ known) (line : Nat) (file : String) :
    (s.relabel ρ).resolve (ρ.name name) (ρ.line line) file =
      (s.resolve name line file).mapError (Diagnostic.relabel ρ) := by
  unfold resolve
  rw [lookup_relabel ρ hs hn]
  split
  · rfl
  · rfl

theorem expectSame_relabel (context : String) (left right : Ty) (line : Nat) (file : String) :
    expectSame context left right (ρ.line line) file =
      (expectSame context left right line file).mapError (Diagnostic.relabel ρ) := by
  unfold expectSame
  split <;> rfl

/-- **The steps of an expression are the same with other labels.** -/
theorem Expr.generate_relabel {scopes : Scopes} (hs : scopes.Within known) {e : Expr}
    (he : ∀ n ∈ e.names, n ∈ known) (target : Target) (file : String) :
    (e.relabel ρ).generate target (scopes.relabel ρ) file =
      (e.generate target scopes file).relabel ρ := by
  induction e with
  | number text ty line =>
    simp only [relabel, generate]
    split <;> rfl
  | symbol name line =>
    have hname : name ∈ known := he name List.mem_cons_self
    simp only [relabel, generate, Scopes.resolve_relabel ρ hs hname]
    cases scopes.resolve name line file <;> rfl
  | binary left operator right line ihl ihr =>
    obtain ⟨hleft, hright⟩ := List.forall_mem_append.mp he
    simp only [relabel, generate, ihl hleft, ihr hright]
    rcases left.generate target scopes file with ⟨ls, lv⟩
    rcases right.generate target scopes file with ⟨rs, rv⟩
    cases lv with
    | error d => rfl
    | ok lt =>
      cases rv with
      | error d => rfl
      | ok rt =>
        simp only [Steps.relabel, Except.mapError, expectSame_relabel]
        cases expectSame ("operands of `" ++ operator.sign ++ "`") lt rt line file <;> rfl
  | convert inner ty line ih =>
    simp only [relabel, generate, ih he]
    rcases inner.generate target scopes file with ⟨is, verdict⟩
    cases verdict <;> rfl

/-! ### Computations of the generator -/

def Generator.relabel (g : Generator) : Generator :=
  { g with scopes := g.scopes.relabel ρ }

namespace Generate

variable {α β : Type}

/-- The same result with other labels: the same value, or the diagnostic with other labels. -/
def relabel :
    EStateM.Result Diagnostic Generator α → EStateM.Result Diagnostic Generator α :=
  translated id (Diagnostic.relabel ρ) (Generator.relabel ρ)

/-- **Two computations that are one up to the labels.** With other names in scope the second one comes
to what the first one comes to, up to the labels; and the first one brings no unknown names into
scope. -/
def Mirrors (x y : Generate α) : Prop :=
  ∀ g : Generator, g.scopes.Within known →
    y (g.relabel ρ) = relabel ρ (x g) ∧ (stateOf (x g)).scopes.Within known

variable {ρ} {x y : Generate α} {f h : α → Generate β}

theorem mirrors_pure (a : α) : Mirrors ρ (pure a) (pure a) :=
  fun _ hg => ⟨rfl, hg⟩

theorem Mirrors.bind (hx : Mirrors ρ x y) (hf : ∀ a, Mirrors ρ (f a) (h a)) :
    Mirrors ρ (x >>= f) (y >>= h) := by
  intro g hg
  obtain ⟨hfirst, hwithin⟩ := hx g hg
  constructor
  · refine bind_translated hfirst fun a g' hr => ?_
    rw [hr] at hwithin
    exact (hf a g' hwithin).1
  · exact stateOf_bind hwithin fun a g' hg' => (hf a g' hg').2

/-! ### Actions of the generator -/

theorem mirrors_emit (step : Step) : Mirrors ρ (emit step) (emit step) :=
  fun _ hg => ⟨rfl, hg⟩

theorem mirrors_allocate {target : Identifier} (hn : target.name ∈ known) (ty : Ty) :
    Mirrors ρ (allocate target ty) (allocate (target.relabel ρ) ty) := by
  intro g hg
  have hdeclare := Scopes.declare_relabel ρ hg hn ⟨ty, some g.slotsUsed⟩ target.line g.file
  unfold allocate Generator.relabel Identifier.relabel
  rw [hdeclare]
  cases hd : g.scopes.declare target.name ⟨ty, some g.slotsUsed⟩ target.line g.file with
  | error d => exact ⟨rfl, hg⟩
  | ok scopes =>
    obtain ⟨-, rfl⟩ := Scopes.declare_eq_ok_iff.mp hd
    exact ⟨rfl, hg.add hn _⟩

theorem mirrors_resolve {name : String} (hn : name ∈ known) (line : Nat) :
    Mirrors ρ (resolve name line) (resolve (ρ.name name) (ρ.line line)) := by
  intro g hg
  have hresolve := Scopes.resolve_relabel ρ hg hn line g.file
  unfold resolve Generator.relabel
  rw [hresolve]
  cases g.scopes.resolve name line g.file with
  | error d => exact ⟨rfl, hg⟩
  | ok found => exact ⟨rfl, hg⟩

theorem mirrors_same (context : String) (left right : Ty) (line : Nat) :
    Mirrors ρ (same context left right line) (same context left right (ρ.line line)) := by
  intro g hg
  unfold same Generator.relabel
  rw [expectSame_relabel]
  cases expectSame context left right line g.file with
  | error d => exact ⟨rfl, hg⟩
  | ok u => exact ⟨rfl, hg⟩

theorem mirrors_expression {e : Expr} (he : ∀ n ∈ e.names, n ∈ known) :
    Mirrors ρ (expression e) (expression (e.relabel ρ)) := by
  intro g hg
  have hsteps := Expr.generate_relabel ρ hg he g.target g.file
  unfold expression Generator.relabel
  simp only [hsteps, Steps.relabel]
  cases (e.generate g.target g.scopes g.file).verdict with
  | error d => exact ⟨rfl, hg⟩
  | ok ty => exact ⟨rfl, hg⟩

/-! ### Statements -/

/-- A value is put into a slot in the same way with other labels. -/
theorem mirrors_store (context : String) (slot : Nat) (ty : Ty) {value : Expr}
    (he : ∀ n ∈ value.names, n ∈ known) (line : Nat) :
    Mirrors ρ
      (do
        let received ← expression value
        same context ty received line
        emit (.store slot ty))
      (do
        let received ← expression (value.relabel ρ)
        same context ty received (ρ.line line)
        emit (.store slot ty)) :=
  (mirrors_expression he).bind fun received =>
    (mirrors_same context ty received line).bind fun _ => mirrors_emit (.store slot ty)

/-- **A statement takes the same steps with other labels.** -/
theorem mirrors_statement {s : Stmt} (hn : ∀ n ∈ s.names, n ∈ known) :
    Mirrors ρ (statement s) (statement (s.relabel ρ)) := by
  obtain ⟨htarget, hvalue⟩ := List.forall_mem_cons.mp hn
  cases s with
  | declaration target ty value line =>
    cases value with
    | none => exact (mirrors_allocate htarget ty).bind fun _ => mirrors_pure ()
    | some value =>
      exact (mirrors_allocate htarget ty).bind fun slot =>
        mirrors_store "declaration" slot ty hvalue line
  | assignment target value line =>
    exact (mirrors_resolve htarget target.line).bind fun found =>
      mirrors_store "assignment" found.1 found.2 hvalue line
  | print target line =>
    exact (mirrors_resolve htarget target.line).bind fun found =>
      mirrors_emit (.print found.1 found.2)

theorem mirrors_statements {body : List Stmt} (hn : ∀ n ∈ body.flatMap Stmt.names, n ∈ known) :
    Mirrors ρ (statements body) (statements (body.map (Stmt.relabel ρ))) := by
  induction body with
  | nil => exact mirrors_pure ()
  | cons s body ih =>
    rw [List.flatMap_cons, List.forall_mem_append] at hn
    exact (mirrors_statement hn.1).bind fun _ => ih hn.2

theorem mirrors_program {p : Program} (hn : ∀ n ∈ p.names, n ∈ known) :
    Mirrors ρ (program p) (program (p.relabel ρ)) :=
  (mirrors_emit .preamble).bind fun _ => mirrors_statements hn

end Generate

/-! ### Programs -/

/-- **The generator after a program is the same with other labels**, up to the names that it has in
scope. -/
theorem generate_relabel {p : Program} (hn : ∀ n ∈ p.names, n ∈ known) (target : Target)
    (file : Option String) :
    generate (p.relabel ρ) target file =
      ((generate p target file).map (Generator.relabel ρ)).mapError (Diagnostic.relabel ρ) := by
  obtain ⟨hprogram, -⟩ :=
    Generate.mirrors_program (ρ := ρ) hn (.start target file) Scopes.within_start
  have hstart : (Generator.start target file).relabel ρ = .start target file := rfl
  rw [hstart] at hprogram
  unfold generate
  rw [hprogram]
  cases Generate.program p (.start target file) <;> rfl

namespace Program

/-- **The output for a target is the same text with other labels.** -/
theorem compile_relabel {p : Program} (hn : ∀ n ∈ p.names, n ∈ known) (file : Option String)
    (options : Options) :
    (p.relabel ρ).compile file options =
      (p.compile file options).mapError (Diagnostic.relabel ρ) := by
  rw [compile, compile, generate_relabel ρ hn]
  cases generate p options.target file <;> rfl

/-- The program for the machine is the same with other labels. -/
theorem bytecode_relabel {p : Program} (hn : ∀ n ∈ p.names, n ∈ known) (file : Option String) :
    (p.relabel ρ).bytecode file = (p.bytecode file).mapError (Diagnostic.relabel ρ) := by
  rw [bytecode, bytecode, generate_relabel ρ hn]
  cases generate p .bytecode file <;> rfl

end Program

end DeskCalc
