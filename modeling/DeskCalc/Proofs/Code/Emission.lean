import DeskCalc.Compile
import DeskCalc.Proofs.Outcome
import DeskCalc.Proofs.Typing.Elaboration

/-!
Emission: which steps a tree comes down to, and which generator is left by a statement, told without
the state of the generator and without its diagnostics. Main statements: the generator takes the steps
of an expression exactly if they are emitted for it (`Expr.generate_eq_ok_iff`), and it leaves
exactly the generator that a statement emits (`Generate.statement_eq_ok_iff`).
-/

namespace DeskCalc

theorem Scopes.resolve_eq_ok_iff {s : Scopes} {name file : String} {line slot : Nat} {ty : Ty} :
    s.resolve name line file = .ok (slot, ty) ↔ s.lookup name = some ⟨ty, some slot⟩ := by
  unfold resolve
  split
  · rename_i h
    simp [h, and_comm]
  · rename_i h
    simp only [reduceCtorEq, false_iff]
    exact fun hl => h ty slot hl

theorem expectSame_eq_ok_iff {context file : String} {left right : Ty} {line : Nat} :
    expectSame context left right line file = .ok () ↔ left = right := by
  unfold expectSame
  split <;> simp_all

/-! ### Expressions -/

namespace Expr

/-- **The steps of an expression** and its type: operands before the operation on them, both of one
type. -/
inductive Emits (target : Target) (scopes : Scopes) : Expr → List Step → Ty → Prop
  | number {text ty line} :
      target.holds text ty = true →
      Emits target scopes (number text ty line) [.literal text ty] ty
  | symbol {name line slot ty} :
      scopes.lookup name = some ⟨ty, some slot⟩ →
      Emits target scopes (symbol name line) [.load slot ty] ty
  | binary {left right operator line ls rs ty} :
      Emits target scopes left ls ty → Emits target scopes right rs ty →
      Emits target scopes (binary left operator right line) (ls ++ rs ++ [.binary operator ty]) ty
  | convert {inner ty line steps received} :
      Emits target scopes inner steps received →
      Emits target scopes (convert inner ty line) (steps ++ [.convert received ty]) ty

theorem emits_of_generate {target : Target} {scopes : Scopes} {file : String} {e : Expr}
    {steps : List Step} {ty : Ty} (h : e.generate target scopes file = ⟨steps, .ok ty⟩) :
    e.Emits target scopes steps ty := by
  induction e generalizing steps ty with
  | number text t line =>
    simp only [generate] at h
    split at h
    · rename_i hh
      cases h
      exact .number hh
    · simp at h
  | symbol name line =>
    simp only [generate] at h
    split at h
    · simp at h
    · rename_i slot t hr
      cases h
      exact .symbol (Scopes.resolve_eq_ok_iff.mp hr)
  | binary left operator right line ihl ihr =>
    simp only [generate] at h
    rcases hl : left.generate target scopes file with ⟨ls, lv⟩
    rcases hr : right.generate target scopes file with ⟨rs, rv⟩
    rw [hl, hr] at h
    cases lv with
    | error d => simp at h
    | ok lt =>
      cases rv with
      | error d => simp at h
      | ok rt =>
        simp only at h
        split at h
        · simp at h
        · rename_i hs
          cases h
          obtain rfl := expectSame_eq_ok_iff.mp hs
          exact .binary (ihl hl) (ihr hr)
  | convert inner t line ih =>
    simp only [generate] at h
    rcases hi : inner.generate target scopes file with ⟨is, iv⟩
    rw [hi] at h
    cases iv with
    | error d => simp at h
    | ok received =>
      cases h
      exact .convert (ih hi)

theorem Emits.generate {target : Target} {scopes : Scopes} {e : Expr} {steps : List Step} {ty : Ty}
    (h : e.Emits target scopes steps ty) (file : String) :
    e.generate target scopes file = ⟨steps, .ok ty⟩ := by
  induction h with
  | number hh => simp only [Expr.generate, hh, if_true]
  | symbol hs => simp only [Expr.generate, Scopes.resolve_eq_ok_iff.mpr hs]
  | binary _ _ ihl ihr => simp only [Expr.generate, ihl, ihr, expectSame_eq_ok_iff.mpr]
  | convert _ ih => simp only [Expr.generate, ih]

/-- **The generator takes the steps of an expression.** -/
theorem generate_eq_ok_iff {target : Target} {scopes : Scopes} {file : String} {e : Expr}
    {steps : List Step} {ty : Ty} :
    e.generate target scopes file = ⟨steps, .ok ty⟩ ↔ e.Emits target scopes steps ty :=
  ⟨emits_of_generate, fun h => h.generate file⟩

/-- The literals among the steps are those of the expression. -/
theorem Emits.literal_mem {target : Target} {scopes : Scopes} {e : Expr} {steps : List Step}
    {ty : Ty} (h : e.Emits target scopes steps ty) {text : String} {t : Ty}
    (hl : Step.literal text t ∈ steps) : (text, t) ∈ e.literals := by
  induction h with
  | number =>
    cases List.mem_singleton.mp hl
    exact List.mem_singleton_self _
  | symbol => cases List.mem_singleton.mp hl
  | binary _ _ ihl ihr =>
    rcases List.mem_append.mp hl with hl | hl
    · rcases List.mem_append.mp hl with hl | hl
      · exact List.mem_append_left _ (ihl hl)
      · exact List.mem_append_right _ (ihr hl)
    · cases List.mem_singleton.mp hl
  | convert _ ih =>
    rcases List.mem_append.mp hl with hl | hl
    · exact ih hl
    · cases List.mem_singleton.mp hl

end Expr

/-! ### Statements -/

namespace Generator

def allocated (g : Generator) (name : String) (ty : Ty) : Generator :=
  { g with scopes := g.scopes.add name ⟨ty, some g.slotsUsed⟩, slotsUsed := g.slotsUsed + 1 }

def took (g : Generator) (steps : List Step) : Generator :=
  { g with steps := g.steps ++ steps }

theorem took_took (g : Generator) (steps more : List Step) :
    (g.took steps).took more = g.took (steps ++ more) := by
  simp only [took, List.append_assoc]

end Generator

/-- **The generator after a statement.** -/
inductive Stmt.Emits (g : Generator) : Stmt → Generator → Prop
  | declaration {target ty line} :
      g.scopes.inner.lookup target.name = none →
      Emits g (declaration target ty none line) (g.allocated target.name ty)
  | initialised {target ty line value steps} :
      g.scopes.inner.lookup target.name = none →
      value.Emits g.target (g.allocated target.name ty).scopes steps ty →
      Emits g (declaration target ty (some value) line)
        ((g.allocated target.name ty).took (steps ++ [.store g.slotsUsed ty]))
  | assignment {target line value steps slot ty} :
      g.scopes.lookup target.name = some ⟨ty, some slot⟩ → value.Emits g.target g.scopes steps ty →
      Emits g (assignment target value line) (g.took (steps ++ [.store slot ty]))
  | print {target line slot ty} :
      g.scopes.lookup target.name = some ⟨ty, some slot⟩ →
      Emits g (print target line) (g.took [.print slot ty])

theorem Stmt.Emits.literal_mem {g g' : Generator} {s : Stmt} {text : String} {t : Ty}
    (h : s.Emits g g') (hl : Step.literal text t ∈ g'.steps) :
    Step.literal text t ∈ g.steps ∨ (text, t) ∈ s.literals := by
  have hstored : ∀ {e : Expr} {target scopes steps ty slot}, e.Emits target scopes steps ty →
      Step.literal text t ∈ g.steps ++ (steps ++ [Step.store slot ty]) →
      Step.literal text t ∈ g.steps ∨ (text, t) ∈ e.literals := by
    intro e target scopes steps ty slot he hl
    rcases List.mem_append.mp hl with hl | hl
    · exact .inl hl
    · rcases List.mem_append.mp hl with hl | hl
      · exact .inr (he.literal_mem hl)
      · cases List.mem_singleton.mp hl
  cases h with
  | declaration => exact .inl hl
  | initialised _ he => exact hstored he hl
  | assignment _ he => exact hstored he hl
  | print =>
    rcases List.mem_append.mp hl with hl | hl
    · exact .inl hl
    · cases List.mem_singleton.mp hl

namespace Generate

variable {g g' : Generator}

theorem allocate_eq_ok_iff {target : Identifier} {ty : Ty} {slot : Nat} :
    allocate target ty g = .ok slot g' ↔
      g.scopes.inner.lookup target.name = none ∧ slot = g.slotsUsed ∧
        g' = g.allocated target.name ty := by
  unfold allocate
  split
  · rename_i scopes h
    obtain ⟨hn, rfl⟩ := Scopes.declare_eq_ok_iff.mp h
    simp [hn, Generator.allocated, eq_comm]
  · rename_i d h
    simp only [reduceCtorEq, false_iff]
    rintro ⟨hn, -⟩
    rw [Scopes.declare_eq_ok_iff.mpr ⟨hn, rfl⟩] at h
    cases h

theorem resolve_eq_ok_iff {name : String} {line slot : Nat} {ty : Ty} :
    resolve name line g = .ok (slot, ty) g' ↔ g.scopes.lookup name = some ⟨ty, some slot⟩ ∧ g' = g := by
  unfold resolve
  split
  · rename_i found h
    obtain ⟨s, t⟩ := found
    simp [Scopes.resolve_eq_ok_iff.mp h, and_comm, eq_comm]
  · rename_i d h
    simp only [reduceCtorEq, false_iff]
    rintro ⟨hl, -⟩
    rw [Scopes.resolve_eq_ok_iff.mpr hl] at h
    cases h

theorem expression_eq_ok_iff {e : Expr} {ty : Ty} :
    expression e g = .ok ty g' ↔ ∃ steps, e.Emits g.target g.scopes steps ty ∧ g' = g.took steps := by
  unfold expression
  rcases hr : e.generate g.target g.scopes g.file with ⟨steps, verdict⟩
  cases verdict with
  | error d =>
    simp only [reduceCtorEq, false_iff]
    rintro ⟨steps', he, -⟩
    simp [he.generate g.file] at hr
  | ok t =>
    have he := Expr.emits_of_generate hr
    simp only [EStateM.Result.ok.injEq]
    constructor
    · rintro ⟨rfl, rfl⟩
      exact ⟨steps, he, rfl⟩
    · rintro ⟨steps', he', rfl⟩
      rw [he'.generate g.file] at hr
      cases hr
      exact ⟨rfl, rfl⟩

theorem same_eq_ok_iff {context : String} {left right : Ty} {line : Nat} {u : Unit} :
    same context left right line g = .ok u g' ↔ left = right ∧ g' = g := by
  unfold same
  split
  · rename_i h
    simp [expectSame_eq_ok_iff.mp h, eq_comm]
  · rename_i d h
    simp only [reduceCtorEq, false_iff]
    rintro ⟨rfl, -⟩
    rw [expectSame_eq_ok_iff.mpr rfl] at h
    cases h

theorem emit_eq_ok_iff {step : Step} {u : Unit} :
    emit step g = .ok u g' ↔ g' = g.took [step] := by
  show EStateM.Result.ok () _ = _ ↔ _
  simp [Generator.took, eq_comm]

/-- **The generator leaves what the statement emits.** -/
theorem statement_eq_ok_iff {s : Stmt} {u : Unit} :
    statement s g = .ok u g' ↔ s.Emits g g' := by
  constructor
  · intro h
    cases s with
    | declaration target ty value line =>
      cases value with
      | none =>
        simp only [statement, bind_eq_ok_iff, allocate_eq_ok_iff] at h
        obtain ⟨_, _, ⟨hn, rfl, rfl⟩, h⟩ := h
        cases h
        exact .declaration hn
      | some value =>
        simp only [statement, bind_eq_ok_iff, allocate_eq_ok_iff, expression_eq_ok_iff,
          same_eq_ok_iff, emit_eq_ok_iff] at h
        obtain ⟨_, _, ⟨hn, rfl, rfl⟩, _, _, ⟨steps, he, rfl⟩, _, _, ⟨rfl, rfl⟩, rfl⟩ := h
        exact Generator.took_took .. ▸ .initialised hn he
    | assignment target value line =>
      simp only [statement, bind_eq_ok_iff] at h
      obtain ⟨⟨slot, ty⟩, _, hr, h⟩ := h
      obtain ⟨hl, rfl⟩ := resolve_eq_ok_iff.mp hr
      simp only [expression_eq_ok_iff, same_eq_ok_iff, emit_eq_ok_iff] at h
      obtain ⟨_, _, ⟨steps, he, rfl⟩, _, _, ⟨rfl, rfl⟩, rfl⟩ := h
      exact Generator.took_took .. ▸ .assignment hl he
    | print target line =>
      simp only [statement, bind_eq_ok_iff] at h
      obtain ⟨⟨slot, ty⟩, _, hr, h⟩ := h
      obtain ⟨hl, rfl⟩ := resolve_eq_ok_iff.mp hr
      obtain rfl := emit_eq_ok_iff.mp h
      exact .print hl
  · rintro (hn | ⟨hn, he⟩ | ⟨hl, he⟩ | hl)
    · exact bind_eq_ok_iff.mpr ⟨_, _, allocate_eq_ok_iff.mpr ⟨hn, rfl, rfl⟩, rfl⟩
    · simp only [statement, bind_eq_ok_iff, allocate_eq_ok_iff, expression_eq_ok_iff,
        same_eq_ok_iff, emit_eq_ok_iff]
      exact ⟨_, _, ⟨hn, rfl, rfl⟩, _, _, ⟨_, he, rfl⟩, (), _, ⟨rfl, rfl⟩, (Generator.took_took ..).symm⟩
    · refine bind_eq_ok_iff.mpr ⟨_, _, resolve_eq_ok_iff.mpr ⟨hl, rfl⟩, ?_⟩
      simp only [bind_eq_ok_iff, expression_eq_ok_iff, same_eq_ok_iff, emit_eq_ok_iff]
      exact ⟨_, _, ⟨_, he, rfl⟩, (), _, ⟨rfl, rfl⟩, (Generator.took_took ..).symm⟩
    · exact bind_eq_ok_iff.mpr ⟨_, _, resolve_eq_ok_iff.mpr ⟨hl, rfl⟩, rfl⟩

end Generate

/-! ### Programs -/

inductive Stmt.AllEmit : Generator → List Stmt → Generator → Prop
  | nil {g} : AllEmit g [] g
  | cons {g g' g'' s body} :
      s.Emits g g' → AllEmit g' body g'' → AllEmit g (s :: body) g''

theorem Stmt.AllEmit.literal_mem {g g' : Generator} {body : List Stmt} {text : String} {t : Ty}
    (h : AllEmit g body g') (hl : Step.literal text t ∈ g'.steps) :
    Step.literal text t ∈ g.steps ∨ (text, t) ∈ body.flatMap Stmt.literals := by
  induction h with
  | nil => exact .inl hl
  | cons hs _ ih =>
    rw [List.flatMap_cons, List.mem_append]
    rcases ih hl with hl | hl
    · rcases hs.literal_mem hl with hl | hl
      · exact .inl hl
      · exact .inr (.inl hl)
    · exact .inr (.inr hl)

theorem Generate.statements_eq_ok_iff {g g' : Generator} {body : List Stmt} {u : Unit} :
    statements body g = .ok u g' ↔ Stmt.AllEmit g body g' := by
  induction body generalizing g with
  | nil =>
    constructor
    · intro h
      cases h
      exact .nil
    · rintro ⟨⟩
      rfl
  | cons s body ih =>
    simp only [statements, bind_eq_ok_iff, statement_eq_ok_iff, ih]
    constructor
    · rintro ⟨_, g₁, hs, hb⟩
      exact .cons hs hb
    · rintro (_ | ⟨hs, hb⟩)
      exact ⟨(), _, hs, hb⟩

/-- Code is generated for a program if its statements emit it in order, behind the preamble. -/
theorem generate_eq_ok_iff {p : Program} {target : Target} {file : Option String} {g : Generator} :
    generate p target file = .ok g ↔
      Stmt.AllEmit ((Generator.start target file).took [.preamble]) p.body g := by
  have hp : Generate.program p (.start target file) =
      Generate.statements p.body ((Generator.start target file).took [.preamble]) := rfl
  unfold generate
  rw [hp, ← Generate.statements_eq_ok_iff (u := ())]
  cases h : Generate.statements p.body ((Generator.start target file).took [.preamble]) with
  | ok u g => simp
  | error d g => simp

theorem compile_of_generate {p : Program} {target : Target} {file : Option String} {g : Generator}
    (h : generate p target file = .ok g) (precision : Nat) :
    p.compile file ⟨target, precision⟩ = .ok (g.output precision) := by
  rw [Program.compile, h]
  rfl

end DeskCalc
