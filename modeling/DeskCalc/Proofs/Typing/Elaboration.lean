import DeskCalc.Proofs.Scopes
import DeskCalc.Proofs.Tree.Contents
import DeskCalc.Typing.Check

/-!
Elaboration: the rules by which a tree is accepted and its conversions are put in, told without the
order of the checker and without its diagnostics. Main statements: the checker accepts an expression
exactly if it elaborates (`Expr.check_eq_ok_iff`), what an expression elaborates to elaborates to
itself, with no further conversion (`Expr.Elaborates.idempotent`), and so a second check of a program
changes nothing (`recheck_changes_nothing`).
-/

namespace DeskCalc

/-! ### Expressions -/

namespace Expr

/-- **The typing rules.** In the given scopes the expression becomes the second one, with so many
conversions more, and has the type. -/
inductive Elaborates (scopes : Scopes) : Expr → Expr → Nat → Ty → Prop
  | number {text ty line} : Elaborates scopes (number text ty line) (number text ty line) 0 ty
  | symbol {name line found} :
      scopes.lookup name = some found →
      Elaborates scopes (symbol name line) (symbol name line) 0 found.ty
  | integers {left right l r operator line m n} :
      Elaborates scopes left l m .int → Elaborates scopes right r n .int →
      Elaborates scopes (binary left operator right line) (binary l operator r line) (m + n) .int
  | doubles {left right l r operator line m n lt rt} :
      Elaborates scopes left l m lt → Elaborates scopes right r n rt → ¬(lt = .int ∧ rt = .int) →
      Elaborates scopes (binary left operator right line)
        (binary (l.widened lt) operator (r.widened rt) line)
        (m + n + lt.widenings + rt.widenings) .float
  | convert {inner i target line n received} :
      Elaborates scopes inner i n received →
      Elaborates scopes (convert inner target line) (convert i target line) n target

theorem elaborates_of_check {scopes : Scopes} {file : String} {e e' : Expr} {n : Nat} {ty : Ty}
    (h : e.check scopes file = ⟨e', n, .ok ty⟩) : e.Elaborates scopes e' n ty := by
  induction e generalizing e' n ty with
  | number text ty line =>
    cases h
    exact .number
  | symbol name line =>
    simp only [check, Checked.mk.injEq] at h
    obtain ⟨rfl, rfl, h⟩ := h
    cases hf : scopes.fetch name line file with
    | error d => simp [hf, Except.map] at h
    | ok found =>
      simp only [hf, Except.map, Except.ok.injEq] at h
      exact h ▸ .symbol (Scopes.fetch_eq_ok_iff.mp hf)
  | binary left operator right line ihl ihr =>
    simp only [check] at h
    rcases hl : left.check scopes file with ⟨l, m, lv⟩
    rcases hr : right.check scopes file with ⟨r, k, rv⟩
    rw [hl, hr] at h
    cases lv with
    | error d => simp at h
    | ok lt =>
      cases rv with
      | error d => simp at h
      | ok rt =>
        simp only at h
        split at h
        · rename_i hty
          obtain ⟨rfl, rfl⟩ := hty
          cases h
          exact .integers (ihl hl) (ihr hr)
        · rename_i hty
          cases h
          exact .doubles (ihl hl) (ihr hr) hty
  | convert inner target line ih =>
    simp only [check] at h
    rcases hi : inner.check scopes file with ⟨i, k, iv⟩
    rw [hi] at h
    cases iv with
    | error d => simp [Except.map] at h
    | ok received =>
      cases h
      exact .convert (ih hi)

theorem Elaborates.check {scopes : Scopes} {e e' : Expr} {n : Nat} {ty : Ty}
    (h : e.Elaborates scopes e' n ty) (file : String) : e.check scopes file = ⟨e', n, .ok ty⟩ := by
  induction h with
  | number => rfl
  | symbol hs =>
    simp only [Expr.check, Scopes.fetch_eq_ok_iff.mpr hs]
    rfl
  | integers _ _ ihl ihr => simp [Expr.check, ihl, ihr]
  | doubles _ _ hty ihl ihr => simp only [Expr.check, ihl, ihr, if_neg hty]
  | convert _ ih =>
    simp only [Expr.check, ih]
    rfl

/-- **The checker follows the rules.** -/
theorem check_eq_ok_iff {scopes : Scopes} {file : String} {e e' : Expr} {n : Nat} {ty : Ty} :
    e.check scopes file = ⟨e', n, .ok ty⟩ ↔ e.Elaborates scopes e' n ty :=
  ⟨elaborates_of_check, fun h => h.check file⟩

/-! ### What elaboration keeps -/

theorem literals_widened (e : Expr) (ty : Ty) : (e.widened ty).literals = e.literals := by
  cases ty <;> rfl

theorem onlyWidens_widened {e : Expr} (h : e.OnlyWidens) (ty : Ty) : (e.widened ty).OnlyWidens := by
  cases ty with
  | int => exact onlyWidens_convert.mpr ⟨rfl, h⟩
  | float => exact h

namespace Elaborates

variable {scopes : Scopes} {e e' : Expr} {n : Nat} {ty : Ty}

theorem literals (h : e.Elaborates scopes e' n ty) : e'.literals = e.literals := by
  induction h with
  | number => rfl
  | symbol => rfl
  | integers _ _ ihl ihr => simp only [Expr.literals, ihl, ihr]
  | doubles _ _ _ ihl ihr => simp only [Expr.literals, literals_widened, ihl, ihr]
  | convert _ ih => exact ih

theorem onlyWidens (h : e.Elaborates scopes e' n ty) (he : e.OnlyWidens) : e'.OnlyWidens := by
  induction h with
  | number => exact he
  | symbol => exact he
  | integers _ _ ihl ihr =>
    obtain ⟨hl, hr⟩ := onlyWidens_binary.mp he
    exact onlyWidens_binary.mpr ⟨ihl hl, ihr hr⟩
  | doubles _ _ _ ihl ihr =>
    obtain ⟨hl, hr⟩ := onlyWidens_binary.mp he
    exact onlyWidens_binary.mpr ⟨onlyWidens_widened (ihl hl) _, onlyWidens_widened (ihr hr) _⟩
  | convert _ ih =>
    obtain ⟨ht, hi⟩ := onlyWidens_convert.mp he
    exact onlyWidens_convert.mpr ⟨ht, ih hi⟩

/-- An expression that needs no conversion stays as it is. -/
theorem eq_of_zero (h : e.Elaborates scopes e' n ty) (hn : n = 0) : e' = e := by
  induction h with
  | number => rfl
  | symbol => rfl
  | integers _ _ ihl ihr => rw [ihl (by omega), ihr (by omega)]
  | @doubles _ _ _ _ _ _ _ _ lt rt _ _ _ ihl ihr =>
    have hl : lt = .float := by cases lt with
      | int => simp only [Ty.widenings] at hn; omega
      | float => rfl
    have hr : rt = .float := by cases rt with
      | int => simp only [Ty.widenings] at hn; omega
      | float => rfl
    subst hl hr
    rw [ihl (by omega), ihr (by omega)]
    rfl
  | convert _ ih => rw [ih hn]

theorem widened (h : e.Elaborates scopes e 0 ty) :
    (e.widened ty).Elaborates scopes (e.widened ty) 0 .float := by
  cases ty with
  | int => exact .convert h
  | float => exact h

/-- **Elaboration is done once.** What an expression elaborates to has the same type and needs no
further conversion. -/
theorem idempotent (h : e.Elaborates scopes e' n ty) : e'.Elaborates scopes e' 0 ty := by
  induction h with
  | number => exact .number
  | symbol hs => exact .symbol hs
  | integers _ _ ihl ihr => exact .integers ihl ihr
  | doubles _ _ _ ihl ihr => exact .doubles ihl.widened ihr.widened (by simp)
  | convert _ ih => exact .convert ih

end Elaborates

/-! ### Values for variables -/

/-- The expression as the value of a variable of the expected type: it has the type, or it is an
integer that is widened. -/
inductive Adapts (scopes : Scopes) (expected : Ty) : Expr → Expr → Nat → Prop
  | same {e e' n} : e.Elaborates scopes e' n expected → Adapts scopes expected e e' n
  | widened {e e' n} :
      e.Elaborates scopes e' n .int → expected = .float →
      Adapts scopes expected e (e'.wrap .float) (n + 1)

theorem checkValue_eq_ok_iff {scopes : Scopes} {file : String} {target : Identifier} {expected : Ty}
    {e e' : Expr} {n : Nat} :
    e.checkValue scopes file target expected = ⟨e', n, .ok ()⟩ ↔ e.Adapts scopes expected e' n := by
  constructor
  · intro h
    unfold checkValue at h
    rcases hc : e.check scopes file with ⟨v, m, verdict⟩
    rw [hc] at h
    cases verdict with
    | error d => simp at h
    | ok received =>
      have he := elaborates_of_check hc
      simp only at h
      split at h
      · rename_i hr
        cases h
        exact .same (hr ▸ he)
      · rename_i hr
        split at h
        · rename_i ha
          cases h
          cases expected <;> cases received <;> simp [Ty.accepts] at hr ha
          exact .widened he rfl
        · simp at h
  · rintro (he | ⟨he, rfl⟩)
    · simp [checkValue, he.check file]
    · simp [checkValue, he.check file, Ty.accepts]

theorem adapts_of_verdict {scopes : Scopes} {file : String} {target : Identifier} {expected : Ty}
    {e : Expr} (h : (e.checkValue scopes file target expected).verdict = .ok ()) :
    e.Adapts scopes expected (e.checkValue scopes file target expected).tree
      (e.checkValue scopes file target expected).inserted := by
  have hv : e.checkValue scopes file target expected =
      ⟨(e.checkValue scopes file target expected).tree,
        (e.checkValue scopes file target expected).inserted, .ok ()⟩ := by
    rw [← h]
  exact checkValue_eq_ok_iff.mp hv

namespace Adapts

variable {scopes : Scopes} {expected : Ty} {e e' : Expr} {n : Nat}

theorem literals (h : e.Adapts scopes expected e' n) : e'.literals = e.literals := by
  rcases h with he | ⟨he, -⟩ <;> exact he.literals

theorem onlyWidens (h : e.Adapts scopes expected e' n) (hw : e.OnlyWidens) : e'.OnlyWidens := by
  rcases h with he | ⟨he, -⟩
  · exact he.onlyWidens hw
  · exact onlyWidens_convert.mpr ⟨rfl, he.onlyWidens hw⟩

theorem idempotent (h : e.Adapts scopes expected e' n) :
    e'.Elaborates scopes e' 0 expected := by
  rcases h with he | ⟨he, rfl⟩
  · exact he.idempotent
  · exact .convert he.idempotent

theorem eq_of_zero (h : e.Adapts scopes expected e' 0) :
    e.Elaborates scopes e 0 expected ∧ e' = e := by
  cases h with
  | same he =>
    have heq := he.eq_of_zero rfl
    exact ⟨heq ▸ he, heq⟩

end Adapts

end Expr

/-! ### Statements -/

/-- **The rules for statements.** In the given scopes the statement becomes the second one, with so
many conversions more, and leaves the last scopes. -/
inductive Stmt.Accepted (scopes : Scopes) : Stmt → Stmt → Nat → Scopes → Prop
  | declaration {target ty line} :
      scopes.inner.lookup target.name = none →
      Accepted scopes (declaration target ty none line) (declaration target ty none line) 0
        (scopes.add target.name ⟨ty, none⟩)
  | initialised {target ty line value value' n} :
      scopes.inner.lookup target.name = none →
      value.Adapts (scopes.add target.name ⟨ty, none⟩) ty value' n →
      Accepted scopes (declaration target ty (some value) line)
        (declaration target ty (some value') line) n (scopes.add target.name ⟨ty, none⟩)
  | assignment {target line value value' n found} :
      scopes.lookup target.name = some found → value.Adapts scopes found.ty value' n →
      Accepted scopes (assignment target value line) (assignment target value' line) n scopes
  | print {target line found} :
      scopes.lookup target.name = some found →
      Accepted scopes (print target line) (print target line) 0 scopes

/-- **The checker follows the rules for statements.** -/
theorem Checker.statement_eq_ok_iff {c : Checker} {s s' : Stmt} {n : Nat} {scopes : Scopes} :
    ((c.statement s).1 = ⟨s', n, .ok ()⟩ ∧ (c.statement s).2.scopes = scopes) ↔
      s.Accepted c.scopes s' n scopes := by
  constructor
  · rintro ⟨h, rfl⟩
    cases s with
    | declaration target ty value line =>
      simp only [statement] at h ⊢
      cases hd : c.scopes.declare target.name ⟨ty, none⟩ target.line c.file with
      | error d => simp [hd] at h
      | ok scopes =>
        obtain ⟨hn, rfl⟩ := Scopes.declare_eq_ok_iff.mp hd
        cases value with
        | none =>
          simp only [hd, Checked.mk.injEq, and_true] at h
          obtain ⟨rfl, rfl⟩ := h
          exact .declaration hn
        | some e =>
          simp only [hd, Checker.value, Checked.mk.injEq] at h
          obtain ⟨rfl, rfl, hv⟩ := h
          exact .initialised hn (Expr.adapts_of_verdict hv)
    | assignment target value line =>
      simp only [statement] at h ⊢
      cases hf : c.scopes.fetch target.name target.line c.file with
      | error d => simp [hf] at h
      | ok found =>
        simp only [hf, Checker.value, Checked.mk.injEq] at h
        obtain ⟨rfl, rfl, hv⟩ := h
        exact .assignment (Scopes.fetch_eq_ok_iff.mp hf) (Expr.adapts_of_verdict hv)
    | print target line =>
      simp only [statement, Checked.mk.injEq] at h
      obtain ⟨rfl, rfl, hv⟩ := h
      cases hf : c.scopes.fetch target.name target.line c.file with
      | error d => simp [hf, Except.map] at hv
      | ok found => exact .print (Scopes.fetch_eq_ok_iff.mp hf)
  · rintro (hn | ⟨hn, hv⟩ | ⟨hf, hv⟩ | hf)
    · simp [statement, Scopes.declare_eq_ok_iff.mpr ⟨hn, rfl⟩]
    · simp [statement, Scopes.declare_eq_ok_iff.mpr ⟨hn, rfl⟩, Checker.value,
        Expr.checkValue_eq_ok_iff.mpr hv]
    · simp [statement, Scopes.fetch_eq_ok_iff.mpr hf, Checker.value, Expr.checkValue_eq_ok_iff.mpr hv]
    · simp [statement, Scopes.fetch_eq_ok_iff.mpr hf, Except.map]

inductive Stmt.AllAccepted : Scopes → List Stmt → List Stmt → Nat → Scopes → Prop
  | nil {scopes} : AllAccepted scopes [] [] 0 scopes
  | cons {scopes scopes' scopes'' s s' body body' m n} :
      s.Accepted scopes s' m scopes' → AllAccepted scopes' body body' n scopes'' →
      AllAccepted scopes (s :: body) (s' :: body') (m + n) scopes''

theorem Checker.statements_eq_ok_iff {c : Checker} {body body' : List Stmt} {n : Nat}
    {scopes : Scopes} :
    ((c.statements body).1 = ⟨body', n, .ok ()⟩ ∧ (c.statements body).2.scopes = scopes) ↔
      Stmt.AllAccepted c.scopes body body' n scopes := by
  induction body generalizing c body' n with
  | nil =>
    constructor
    · rintro ⟨h, rfl⟩
      cases h
      exact .nil
    · rintro ⟨⟩
      exact ⟨rfl, rfl⟩
  | cons s body ih =>
    rcases hs : c.statement s with ⟨⟨s', m, verdict⟩, c'⟩
    simp only [statements, hs]
    constructor
    · rintro ⟨h, hsc⟩
      cases verdict with
      | error d => simp at h
      | ok u =>
        rcases hb : c'.statements body with ⟨⟨rest, k, verdict'⟩, c''⟩
        simp only [hb, Checked.mk.injEq] at h hsc
        obtain ⟨rfl, rfl, rfl⟩ := h
        refine .cons (statement_eq_ok_iff.mp ⟨congrArg Prod.fst hs, congrArg (·.2.scopes) hs⟩) ?_
        exact ih.mp ⟨congrArg Prod.fst hb, (congrArg (·.2.scopes) hb).trans hsc⟩
    · rintro (_ | ⟨hs', hb⟩)
      obtain ⟨h₁, rfl⟩ := statement_eq_ok_iff.mpr hs'
      rw [hs] at h₁ hb
      cases h₁
      obtain ⟨h₂, h₃⟩ := ih.mpr hb
      rw [h₂]
      exact ⟨rfl, h₃⟩

/-- A checked program is one whose statements are accepted in order. -/
theorem Program.check_eq_ok_iff {p p' : Program} {file : Option String} {n : Nat} :
    p.check file = ⟨p', n, .ok ()⟩ ↔
      p'.line = p.line ∧ ∃ scopes, Stmt.AllAccepted .start p.body p'.body n scopes := by
  have hc : p.check file = ⟨{ p with body := ((Checker.start file).statements p.body).1.tree },
      ((Checker.start file).statements p.body).1.inserted,
      ((Checker.start file).statements p.body).1.verdict⟩ := rfl
  obtain ⟨body', line'⟩ := p'
  rw [hc, Checked.mk.injEq, Program.mk.injEq]
  constructor
  · rintro ⟨⟨rfl, rfl⟩, rfl, hv⟩
    refine ⟨rfl, _, (Checker.statements_eq_ok_iff (c := Checker.start file)).mp ⟨?_, rfl⟩⟩
    rw [← hv]
  · rintro ⟨rfl, scopes, h⟩
    obtain ⟨h, -⟩ := (Checker.statements_eq_ok_iff (c := Checker.start file)).mpr h
    simp [h]

/-- What the checker makes of a program that it lets pass is accepted. -/
theorem Program.accepted_of_verdict {p : Program} {file : Option String}
    (h : (p.check file).verdict = .ok ()) :
    ∃ scopes, Stmt.AllAccepted .start p.body (p.check file).tree.body (p.check file).inserted
      scopes := by
  have hc : p.check file = ⟨(p.check file).tree, (p.check file).inserted, .ok ()⟩ := by
    rw [← h]
  exact (check_eq_ok_iff.mp hc).2

/-! ### What acceptance keeps -/

namespace Stmt

variable {scopes scopes' : Scopes} {s s' : Stmt} {body body' : List Stmt} {n : Nat}

theorem Accepted.literals (h : s.Accepted scopes s' n scopes') : s'.literals = s.literals := by
  cases h with
  | declaration => rfl
  | initialised _ hv => exact hv.literals
  | assignment _ hv => exact hv.literals
  | print => rfl

theorem Accepted.onlyWidens (h : s.Accepted scopes s' n scopes') (hw : s.OnlyWidens) :
    s'.OnlyWidens := by
  cases h with
  | declaration => exact hw
  | initialised _ hv =>
    rintro _ ⟨⟩
    exact hv.onlyWidens (hw _ rfl)
  | assignment _ hv =>
    rintro _ ⟨⟩
    exact hv.onlyWidens (hw _ rfl)
  | print => exact hw

theorem Accepted.idempotent (h : s.Accepted scopes s' n scopes') :
    s'.Accepted scopes s' 0 scopes' := by
  cases h with
  | declaration hn => exact .declaration hn
  | initialised hn hv => exact .initialised hn (.same hv.idempotent)
  | assignment hl hv => exact .assignment hl (.same hv.idempotent)
  | print hl => exact .print hl

theorem Accepted.eq_of_zero (h : s.Accepted scopes s' 0 scopes') : s' = s := by
  cases h with
  | declaration => rfl
  | initialised _ hv => rw [hv.eq_of_zero.2]
  | assignment _ hv => rw [hv.eq_of_zero.2]
  | print => rfl

theorem AllAccepted.literals (h : AllAccepted scopes body body' n scopes') :
    body'.flatMap Stmt.literals = body.flatMap Stmt.literals := by
  induction h with
  | nil => rfl
  | cons hs _ ih => rw [List.flatMap_cons, List.flatMap_cons, hs.literals, ih]

theorem AllAccepted.onlyWidens (h : AllAccepted scopes body body' n scopes')
    (hw : ∀ s ∈ body, s.OnlyWidens) : ∀ s ∈ body', s.OnlyWidens := by
  induction h with
  | nil => exact hw
  | cons hs _ ih =>
    rw [List.forall_mem_cons] at hw ⊢
    exact ⟨hs.onlyWidens hw.1, ih hw.2⟩

/-- **Checking is done once**, statements in order included. -/
theorem AllAccepted.idempotent (h : AllAccepted scopes body body' n scopes') :
    AllAccepted scopes body' body' 0 scopes' := by
  induction h with
  | nil => exact .nil
  | cons hs _ ih => exact .cons hs.idempotent ih

theorem AllAccepted.eq_of_zero (h : AllAccepted scopes body body' n scopes') (hn : n = 0) :
    body' = body := by
  induction h with
  | nil => rfl
  | @cons _ _ _ _ _ _ _ m _ hs _ ih =>
    obtain rfl : m = 0 := by omega
    rw [hs.eq_of_zero, ih (by omega)]

end Stmt

/-! ### Checking twice -/

/-- **Checking is done once.** A program that passes the check, with whatever conversions it had before,
becomes a tree that passes the check of a new checker without a further conversion and stays as it is,
lines included. -/
theorem recheck_changes_nothing {p : Program} {file : Option String}
    (h : (p.check file).verdict = .ok ()) (again : Option String) :
    (p.check file).tree.check again = ⟨(p.check file).tree, 0, .ok ()⟩ := by
  obtain ⟨scopes, haccepted⟩ := Program.accepted_of_verdict h
  have hagain : Stmt.AllAccepted .start (p.check file).tree.body (p.check file).tree.body 0 scopes :=
    haccepted.idempotent
  exact Program.check_eq_ok_iff.mpr ⟨rfl, scopes, hagain⟩

/-- A program that has conversions before it is checked, one of them from `float` to `int`:
`int a = (int) 2.5;`, then `float b = (a + 1) * ((float) a / a);`. -/
def convertedProgram : Program :=
  ⟨[.declaration ⟨"a", 1⟩ .int (some (.convert (.number "2.5" .float 1) .int 1)) 1,
    .declaration ⟨"b", 2⟩ .float
      (some (.binary (.binary (.symbol "a" 2) .add (.number "1" .int 2) 2) .mul
        (.binary (.convert (.symbol "a" 3) .float 3) .div (.symbol "a" 3) 3) 2)) 2], 1⟩

/-- The sum and the divisor get a conversion each, and nothing more the second time. -/
theorem recheck_changes_nothing_converted :
    (convertedProgram.check none).verdict = .ok () ∧
      (convertedProgram.check none).inserted = 2 ∧
      (convertedProgram.check none).tree.body =
        [.declaration ⟨"a", 1⟩ .int (some (.convert (.number "2.5" .float 1) .int 1)) 1,
          .declaration ⟨"b", 2⟩ .float
            (some (.binary
              (.convert (.binary (.symbol "a" 2) .add (.number "1" .int 2) 2) .float 2) .mul
              (.binary (.convert (.symbol "a" 3) .float 3) .div (.convert (.symbol "a" 3) .float 3) 3)
              2)) 2] ∧
      (convertedProgram.check none).tree.check (some "again") =
        ⟨(convertedProgram.check none).tree, 0, .ok ()⟩ := by
  have hpasses : (convertedProgram.check none).verdict = .ok () := by rfl
  exact ⟨hpasses, by decide, by decide, recheck_changes_nothing hpasses (some "again")⟩

end DeskCalc
