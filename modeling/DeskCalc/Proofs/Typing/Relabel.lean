import DeskCalc.Proofs.Tree.Relabel
import DeskCalc.Proofs.Typing.Insertion

/-!
The checker and the labels of a tree. The checker looks at a name only to find what it stands for, and
at a line only to put it into a conversion or a diagnostic. So with other labels it does the same: the
same conversions, and the same tree or diagnostic up to the labels. Main statement:
`Program.check_relabel`.
-/

namespace DeskCalc

variable {known : Set String} (ρ : Relabelling known)

def Checked.relabel {α τ : Type} (f : α → α) (r : Checked α τ) : Checked α τ :=
  ⟨f r.tree, r.inserted, r.verdict.mapError (Diagnostic.relabel ρ)⟩

/-! ### Expressions -/

namespace Expr

variable {scopes : Scopes}

theorem widened_relabel (e : Expr) (ty : Ty) :
    (e.relabel ρ).widened ty = (e.widened ty).relabel ρ := by
  cases ty with
  | int => exact wrap_relabel ρ e .float
  | float => rfl

/-- **An expression is checked in the same way with other labels.** -/
theorem check_relabel (hs : scopes.Within known) {e : Expr} (he : ∀ n ∈ e.names, n ∈ known)
    (file : String) :
    (e.relabel ρ).check (scopes.relabel ρ) file =
      (e.check scopes file).relabel ρ (Expr.relabel ρ) := by
  induction e with
  | number text ty line => rfl
  | symbol name line =>
    have hname : name ∈ known := he name List.mem_cons_self
    simp only [relabel, check, Checked.relabel, Scopes.fetch_relabel ρ hs hname]
    cases scopes.fetch name line file <;> rfl
  | binary left operator right line ihl ihr =>
    obtain ⟨hleft, hright⟩ := List.forall_mem_append.mp he
    simp only [relabel, check, ihl hleft, ihr hright]
    rcases left.check scopes file with ⟨l, m, lv⟩
    rcases right.check scopes file with ⟨r, k, rv⟩
    cases lv with
    | error d => rfl
    | ok lt =>
      cases rv with
      | error d => rfl
      | ok rt =>
        simp only [Checked.relabel, Except.mapError]
        split
        · rfl
        · simp only [widened_relabel, relabel]
  | convert inner target line ih =>
    simp only [relabel, check, ih he]
    rcases inner.check scopes file with ⟨i, k, verdict⟩
    cases verdict <;> rfl

theorem checkValue_relabel (hs : scopes.Within known) {e : Expr} (he : ∀ n ∈ e.names, n ∈ known)
    (target : Identifier) (expected : Ty) (file : String) :
    (e.relabel ρ).checkValue (scopes.relabel ρ) file (target.relabel ρ) expected =
      (e.checkValue scopes file target expected).relabel ρ (Expr.relabel ρ) := by
  simp only [checkValue, check_relabel ρ hs he]
  rcases e.check scopes file with ⟨v, m, verdict⟩
  cases verdict with
  | error d => rfl
  | ok received =>
    simp only [Checked.relabel, Except.mapError]
    split
    · rfl
    · split
      · simp only [wrap_relabel]
      · rfl

/-- A conversion that is put in brings no name with it. -/
theorem Inserts.names_eq {e e' : Expr} {n : Nat} (h : e.Inserts scopes e' n) :
    e'.names = e.names := by
  induction h with
  | same => rfl
  | inside _ ih => exact ih
  | operands _ _ ihl ihr => simp only [names, ihl, ihr]
  | left _ _ _ _ ihl ihr => simp only [names, ihl, ihr]
  | right _ _ _ _ ihl ihr => simp only [names, ihl, ihr]

theorem InsertsFor.names_eq {expected : Ty} {e e' : Expr} {n : Nat}
    (h : e.InsertsFor scopes expected e' n) : e'.names = e.names := by
  rcases h with he | ⟨he, -, -⟩
  · exact he.names_eq
  · exact he.names_eq

end Expr

/-! ### Statements -/

namespace Stmt

variable {scopes : Scopes}

theorem Inserts.names_eq {s s' : Stmt} {n : Nat} (h : s.Inserts scopes s' n) :
    s'.names = s.names := by
  cases h with
  | same => rfl
  | declaration _ hv => simp only [names, target, value?, Option.map_some, hv.names_eq]
  | assignment _ hv => simp only [names, target, value?, Option.map_some, hv.names_eq]

theorem AllInsert.names_eq {body body' : List Stmt} {n : Nat} (h : AllInsert scopes body body' n) :
    body'.flatMap names = body.flatMap names := by
  induction h with
  | nil => rfl
  | cons hs _ ih => rw [List.flatMap_cons, List.flatMap_cons, hs.names_eq, ih]

end Stmt

namespace Checker

variable {c : Checker}

def relabel (c : Checker) : Checker :=
  { c with scopes := c.scopes.relabel ρ }

theorem value_relabel (hs : c.scopes.Within known) {e : Expr} (he : ∀ n ∈ e.names, n ∈ known)
    (target : Identifier) (expected : Ty) :
    (c.relabel ρ).value (target.relabel ρ) expected (e.relabel ρ) =
      ((c.value target expected e).1.relabel ρ (Expr.relabel ρ),
        (c.value target expected e).2.relabel ρ) := by
  have hvalue := Expr.checkValue_relabel ρ hs he target expected c.file
  simp only [value, relabel, hvalue]
  rfl

/-- The names in scope behind a statement are those before it and its own. -/
theorem within_statement (hs : c.scopes.Within known) {s : Stmt} (hn : s.target.name ∈ known) :
    (c.statement s).2.scopes.Within known := by
  rw [scopes_statement]
  cases s with
  | declaration target ty value line =>
    simp only [Scopes.behind]
    split
    · exact hs.add hn _
    · exact hs
  | assignment => exact hs
  | print => exact hs

/-- **A statement is checked in the same way with other labels**, and leaves the same names in scope. -/
theorem statement_relabel (hs : c.scopes.Within known) {s : Stmt} (hn : ∀ n ∈ s.names, n ∈ known) :
    (c.relabel ρ).statement (s.relabel ρ) =
      ((c.statement s).1.relabel ρ (Stmt.relabel ρ), (c.statement s).2.relabel ρ) := by
  obtain ⟨htarget, hvalue⟩ := List.forall_mem_cons.mp hn
  cases s with
  | declaration target ty value line =>
    have hname : target.name ∈ known := htarget
    have hdeclare : (c.relabel ρ).scopes.declare (target.relabel ρ).name ⟨ty, none⟩
        (target.relabel ρ).line (c.relabel ρ).file = _ :=
      Scopes.declare_relabel ρ hs hname ⟨ty, none⟩ target.line c.file
    cases hd : c.scopes.declare target.name ⟨ty, none⟩ target.line c.file with
    | error d =>
      rw [hd] at hdeclare
      simp only [Stmt.relabel, statement, hdeclare, hd]
      rfl
    | ok scopes =>
      obtain ⟨-, rfl⟩ := Scopes.declare_eq_ok_iff.mp hd
      rw [hd] at hdeclare
      cases value with
      | none =>
        simp only [Stmt.relabel, statement, hdeclare, hd]
        rfl
      | some e =>
        -- the declared name is in scope in its own value
        have he : Checker.value ⟨(c.scopes.add target.name ⟨ty, none⟩).relabel ρ, (c.relabel ρ).file,
            (c.relabel ρ).conversions⟩ (target.relabel ρ) ty (e.relabel ρ) = _ :=
          value_relabel ρ (c := { c with scopes := c.scopes.add target.name ⟨ty, none⟩ })
            (hs.add hname ⟨ty, none⟩) hvalue target ty
        simp only [Stmt.relabel, statement, hdeclare, hd, Except.map, Except.mapError,
          Option.map_some, he]
        rfl
  | assignment target e line =>
    have hname : target.name ∈ known := htarget
    have hfetch : (c.relabel ρ).scopes.fetch (target.relabel ρ).name (target.relabel ρ).line
        (c.relabel ρ).file = _ := Scopes.fetch_relabel ρ hs hname target.line c.file
    cases hf : c.scopes.fetch target.name target.line c.file with
    | error d =>
      rw [hf] at hfetch
      simp only [Stmt.relabel, statement, hfetch, hf]
      rfl
    | ok symbol =>
      rw [hf] at hfetch
      have he := value_relabel ρ hs hvalue target symbol.ty
      simp only [Stmt.relabel, statement, hfetch, hf, Except.mapError, he]
      rfl
  | print target line =>
    have hname : target.name ∈ known := htarget
    have hfetch : (c.relabel ρ).scopes.fetch (target.relabel ρ).name (target.relabel ρ).line
        (c.relabel ρ).file = _ := Scopes.fetch_relabel ρ hs hname target.line c.file
    simp only [Stmt.relabel, statement, hfetch]
    cases c.scopes.fetch target.name target.line c.file <;> rfl

/-- Statements in order are checked in the same way with other labels. -/
theorem statements_relabel (hs : c.scopes.Within known) {body : List Stmt}
    (hn : ∀ n ∈ body.flatMap Stmt.names, n ∈ known) :
    (c.relabel ρ).statements (body.map (Stmt.relabel ρ)) =
      ((c.statements body).1.relabel ρ (List.map (Stmt.relabel ρ)),
        (c.statements body).2.relabel ρ) := by
  induction body generalizing c with
  | nil => rfl
  | cons s body ih =>
    rw [List.flatMap_cons, List.forall_mem_append] at hn
    obtain ⟨hfirst, hrest⟩ := hn
    have hbehind := within_statement hs (hfirst s.target.name List.mem_cons_self)
    simp only [List.map_cons, statements, statement_relabel ρ hs hfirst]
    rcases hc : c.statement s with ⟨⟨s', m, verdict⟩, c'⟩
    rw [hc] at hbehind
    cases verdict with
    | error d => rfl
    | ok u =>
      simp only [Checked.relabel, Except.mapError, ih hbehind hrest]
      rfl

end Checker

/-! ### Programs -/

namespace Program

/-- **A program is checked in the same way with other labels.** -/
theorem check_relabel {p : Program} (hn : ∀ n ∈ p.names, n ∈ known) (file : Option String) :
    (p.relabel ρ).check file = (p.check file).relabel ρ (Program.relabel ρ) := by
  have hbody := Checker.statements_relabel ρ (c := .start file) Scopes.within_start hn
  have hstart : (Checker.start file).relabel ρ = .start file := rfl
  rw [hstart] at hbody
  simp only [check, Checker.program, relabel, hbody]
  rfl

/-- A check adds no name. -/
theorem names_check (p : Program) (file : Option String) : (p.check file).tree.names = p.names :=
  ((Checker.start file).statements_inserts p.body).1.names_eq

end Program

end DeskCalc
