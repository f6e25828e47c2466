import DeskCalc.Proofs.Typing.Elaboration

/-!
Well-formed programs and first violations, told by the statements that come before and with no
reference to scopes. A checker that knows what the earlier statements declare (`Scopes.Knows`) lets a
well-formed statement pass and then knows what that one declares as well
(`Stmt.WellFormed.verdict_statement`, `Stmt.knows_statement`), refuses any other with its first
violation (`Stmt.FirstViolation.verdict_statement`), and there is no third case
(`Stmt.wellFormed_or_violation`). Main statement: the same of programs
(`check_reports_first_violation`).
-/

namespace DeskCalc

/-! ### Declarations -/

/-- Some of the statements declares the name with the type. -/
def DeclaredAs (body : List Stmt) (name : String) (ty : Ty) : Prop :=
  ∃ target value line, Stmt.declaration target ty value line ∈ body ∧ target.name = name

def Declared (body : List Stmt) (name : String) : Prop := ∃ ty, DeclaredAs body name ty

theorem declaredAs_append {body : List Stmt} {s : Stmt} {name : String} {ty : Ty} :
    DeclaredAs (body ++ [s]) name ty ↔ DeclaredAs body name ty ∨
      ∃ target value line, s = .declaration target ty value line ∧ target.name = name := by
  constructor
  · rintro ⟨target, value, line, hmem, hname⟩
    rcases List.mem_append.mp hmem with hbody | hs
    · exact .inl ⟨target, value, line, hbody, hname⟩
    · exact .inr ⟨target, value, line, (List.mem_singleton.mp hs).symm, hname⟩
  · rintro (⟨target, value, line, hmem, hname⟩ | ⟨target, value, line, rfl, hname⟩)
    · exact ⟨target, value, line, List.mem_append_left _ hmem, hname⟩
    · exact ⟨target, value, line, by simp, hname⟩

theorem declaredAs_declaration {body : List Stmt} {target : Identifier} {ty ty' : Ty}
    {value : Option Expr} {line : Nat} {name : String} :
    DeclaredAs (body ++ [.declaration target ty value line]) name ty' ↔
      DeclaredAs body name ty' ∨ target.name = name ∧ ty = ty' := by
  rw [declaredAs_append]
  refine or_congr_right ⟨?_, ?_⟩
  · rintro ⟨_, _, _, heq, hname⟩
    cases heq
    exact ⟨hname, rfl⟩
  · rintro ⟨hname, rfl⟩
    exact ⟨target, value, line, rfl, hname⟩

theorem declaredAs_other {body : List Stmt} {s : Stmt} {name : String} {ty : Ty}
    (hs : ∀ target ty value line, s ≠ .declaration target ty value line) :
    DeclaredAs (body ++ [s]) name ty ↔ DeclaredAs body name ty := by
  rw [declaredAs_append, or_iff_left_iff_imp]
  rintro ⟨target, value, line, heq, -⟩
  exact absurd heq (hs target ty value line)

/-- The variables that are read in an expression with their lines, from the left to the right. -/
def Expr.reads : Expr → List (String × Nat)
  | number .. => []
  | symbol name line => [(name, line)]
  | binary left _ right _ => left.reads ++ right.reads
  | convert inner _ _ => inner.reads

/-- Some leaf of the expression is a literal of type `float` or a variable declared as such. -/
def Expr.HasFloat (body : List Stmt) : Expr → Prop
  | number _ ty _ => ty = .float
  | symbol name _ => DeclaredAs body name .float
  | binary left _ right _ => left.HasFloat body ∨ right.HasFloat body
  | convert inner _ _ => inner.HasFloat body

namespace Stmt

/-! ### Well-formed statements -/

/-- What the name of the statement must satisfy: a declaration has a new name, the others have a
declared one. -/
def TargetFine (earlier : List Stmt) : Stmt → Prop
  | declaration target _ _ _ => ¬Declared earlier target.name
  | assignment target _ _ => Declared earlier target.name
  | print target _ => Declared earlier target.name

/-- The statements whose names can be read in the expression of the statement: the earlier ones, and
a declaration itself. -/
def visible (earlier : List Stmt) : Stmt → List Stmt
  | s@(declaration ..) => earlier ++ [s]
  | _ => earlier

/-- The statement behind the earlier ones: its name is fine, every variable that it reads is
declared, and no `float` occurs in a value for an `int`. -/
structure WellFormed (earlier : List Stmt) (s : Stmt) : Prop where
  target : s.TargetFine earlier
  declared : ∀ e ∈ s.value?, ∀ v ∈ e.reads, Declared (s.visible earlier) v.1
  fits : ∀ e ∈ s.value?, DeclaredAs (s.visible earlier) s.target.name .int →
    ¬e.HasFloat (s.visible earlier)

def AllWellFormed (earlier : List Stmt) : List Stmt → Prop
  | [] => True
  | s :: body => s.WellFormed earlier ∧ AllWellFormed (earlier ++ [s]) body

/-- The cause and the line of the first thing that is wrong with the statement behind the earlier
ones: its name, then the first variable that is not declared, then a `float` for an `int`. -/
inductive FirstViolation (earlier : List Stmt) : Stmt → Cause → Nat → Prop
  | redeclared {target ty value line} :
      Declared earlier target.name →
      FirstViolation earlier (declaration target ty value line)
        (.variableAlreadyDeclared target.name) target.line
  | unassignable {target value line} :
      ¬Declared earlier target.name →
      FirstViolation earlier (assignment target value line)
        (.variableNotDeclared target.name) target.line
  | unprintable {target line} :
      ¬Declared earlier target.name →
      FirstViolation earlier (print target line) (.variableNotDeclared target.name) target.line
  | unreadable {s e before name line after} :
      s.TargetFine earlier → e ∈ s.value? → e.reads = before ++ (name, line) :: after →
      (∀ v ∈ before, Declared (s.visible earlier) v.1) → ¬Declared (s.visible earlier) name →
      FirstViolation earlier s (.variableNotDeclared name) line
  | narrowing {s e} :
      s.TargetFine earlier → e ∈ s.value? →
      (∀ v ∈ e.reads, Declared (s.visible earlier) v.1) →
      DeclaredAs (s.visible earlier) s.target.name .int → e.HasFloat (s.visible earlier) →
      FirstViolation earlier s (.narrowingConversion s.target.name "int" "float") s.target.line

/-- Either a property holds of a whole list or there is a first element without it. -/
theorem forall_or_first {α : Type} (xs : List α) (P : α → Prop) :
    (∀ x ∈ xs, P x) ∨
      ∃ before x after, xs = before ++ x :: after ∧ (∀ y ∈ before, P y) ∧ ¬P x := by
  induction xs with
  | nil => exact .inl (by simp)
  | cons x xs ih =>
    by_cases hx : P x
    · rcases ih with hall | ⟨before, y, after, rfl, hbefore, hy⟩
      · exact .inl (List.forall_mem_cons.mpr ⟨hx, hall⟩)
      · exact .inr ⟨x :: before, y, after, rfl, List.forall_mem_cons.mpr ⟨hx, hbefore⟩, hy⟩
    · exact .inr ⟨[], x, xs, rfl, by simp, hx⟩

/-- A statement is well-formed or has a first violation. -/
theorem wellFormed_or_violation (earlier : List Stmt) (s : Stmt) :
    s.WellFormed earlier ∨ ∃ cause line, s.FirstViolation earlier cause line := by
  by_cases ht : s.TargetFine earlier
  · cases hv : s.value? with
    | none => exact .inl ⟨ht, by simp [hv], by simp [hv]⟩
    | some e =>
      have hmem : e ∈ s.value? := hv
      rcases forall_or_first e.reads fun v => Declared (s.visible earlier) v.1 with
        hall | ⟨before, ⟨name, line⟩, after, hsplit, hbefore, hname⟩
      · by_cases hn : DeclaredAs (s.visible earlier) s.target.name .int ∧
            e.HasFloat (s.visible earlier)
        · exact .inr ⟨_, _, .narrowing ht hmem hall hn.1 hn.2⟩
        · refine .inl ⟨ht, ?_, ?_⟩
          · rw [hv]
            rintro _ ⟨⟩
            exact hall
          · rw [hv]
            rintro _ ⟨⟩ hint hfloat
            exact hn ⟨hint, hfloat⟩
      · exact .inr ⟨_, _, .unreadable ht hmem hsplit hbefore hname⟩
  · right
    cases s with
    | declaration target ty value line =>
      have hdeclared : Declared earlier target.name := Classical.not_not.mp ht
      exact ⟨_, _, .redeclared hdeclared⟩
    | assignment target value line => exact ⟨_, _, .unassignable ht⟩
    | print target line => exact ⟨_, _, .unprintable ht⟩

end Stmt

/-! ### Scopes that know declarations -/

/-- The only scope has the names that the statements declare, with their types. -/
structure Scopes.Knows (s : Scopes) (body : List Stmt) : Prop where
  outer : s.outer = []
  lookup : ∀ name ty, (s.lookup name).map Symbol.ty = some ty ↔ DeclaredAs body name ty

namespace Scopes.Knows

variable {s : Scopes} {body : List Stmt} {name : String} {ty : Ty}

theorem declared_iff (h : s.Knows body) : Declared body name ↔ s.lookup name ≠ none := by
  constructor
  · rintro ⟨ty, hd⟩ hn
    have hl := (h.lookup name ty).mpr hd
    rw [hn] at hl
    cases hl
  · intro hn
    obtain ⟨found, hf⟩ := Option.ne_none_iff_exists'.mp hn
    exact ⟨found.ty, (h.lookup name found.ty).mp (by rw [hf]; rfl)⟩

theorem inner_lookup (h : s.Knows body) : s.inner.lookup name = s.lookup name := by
  unfold Scopes.lookup
  rw [h.outer]
  cases hl : s.inner.lookup name <;> simp [hl]

theorem unique (h : s.Knows body) {ty' : Ty} (hd : DeclaredAs body name ty)
    (hd' : DeclaredAs body name ty') : ty = ty' := by
  have hl := (h.lookup name ty).mpr hd
  rw [(h.lookup name ty').mpr hd'] at hl
  exact (Option.some.inj hl).symm

theorem exists_lookup (h : s.Knows body) (hd : Declared body name) :
    ∃ found, s.lookup name = some found ∧ DeclaredAs body name found.ty := by
  obtain ⟨found, hf⟩ := Option.ne_none_iff_exists'.mp (h.declared_iff.mp hd)
  exact ⟨found, hf, (h.lookup name found.ty).mp (by rw [hf]; rfl)⟩

theorem lookup_none (h : s.Knows body) (hd : ¬Declared body name) : s.lookup name = none :=
  Classical.not_not.mp fun hn => hd (h.declared_iff.mpr hn)

/-- A new name can be declared. -/
theorem declare_of_new (h : s.Knows body) (hn : ¬Declared body name) (symbol : Symbol) (line : Nat)
    (file : String) : s.declare name symbol line file = .ok (s.add name symbol) :=
  declare_eq_ok_iff.mpr ⟨h.inner_lookup.trans (h.lookup_none hn), rfl⟩

theorem start : Scopes.start.Knows [] := by
  refine ⟨rfl, fun name ty => ⟨fun h => ?_, ?_⟩⟩
  · cases h
  · rintro ⟨target, value, line, hmem, -⟩
    cases hmem

/-- A new name is known once it is added. -/
theorem add (h : s.Knows body) {target : Identifier} (hn : ¬Declared body target.name)
    (value : Option Expr) (line : Nat) :
    (s.add target.name ⟨ty, none⟩).Knows (body ++ [.declaration target ty value line]) := by
  refine ⟨h.outer, fun name ty' => ?_⟩
  rw [Scopes.lookup_add, declaredAs_declaration]
  by_cases hname : name = target.name
  · subst hname
    have hnot : ¬DeclaredAs body target.name ty' := fun hd => hn ⟨ty', hd⟩
    simp [hnot]
  · simp [hname, h.lookup, Ne.symm hname]

/-- A statement that declares nothing changes nothing of what is known. -/
theorem other (h : s.Knows body) {stmt : Stmt}
    (hs : ∀ target ty value line, stmt ≠ .declaration target ty value line) :
    s.Knows (body ++ [stmt]) := by
  refine ⟨h.outer, fun name ty => ?_⟩
  rw [declaredAs_other hs]
  exact h.lookup name ty

end Scopes.Knows

/-! ### Expressions -/

namespace Expr

variable {scopes : Scopes} {body : List Stmt} {e : Expr} {file : String}

/-- An expression whose variables are all declared has a type, which is `float` exactly if some leaf
is. -/
theorem elaborates_of_declared (hk : scopes.Knows body) (hc : e.conversions = 0)
    (hv : ∀ v ∈ e.reads, Declared body v.1) :
    ∃ e' n ty, e.Elaborates scopes e' n ty ∧ (ty = .float ↔ e.HasFloat body) := by
  induction e with
  | number text ty line => exact ⟨_, _, ty, .number, Iff.rfl⟩
  | symbol name line =>
    obtain ⟨found, hf, hd⟩ := hk.exists_lookup (hv (name, line) List.mem_cons_self)
    refine ⟨_, _, found.ty, .symbol hf, fun h => ?_, fun h => hk.unique hd h⟩
    show DeclaredAs body name .float
    exact h ▸ hd
  | binary left operator right line ihl ihr =>
    obtain ⟨hcl, hcr⟩ := Nat.add_eq_zero_iff.mp hc
    obtain ⟨hvl, hvr⟩ := List.forall_mem_append.mp hv
    obtain ⟨l, m, lt, hl, hlt⟩ := ihl hcl hvl
    obtain ⟨r, n, rt, hr, hrt⟩ := ihr hcr hvr
    by_cases hty : lt = .int ∧ rt = .int
    · obtain ⟨rfl, rfl⟩ := hty
      refine ⟨_, _, .int, .integers hl hr, ?_⟩
      rw [HasFloat, ← hlt, ← hrt]
      simp
    · refine ⟨_, _, .float, .doubles hl hr hty, ?_⟩
      rw [HasFloat, ← hlt, ← hrt]
      cases lt <;> cases rt <;> simp at hty ⊢
  | convert => rw [conversions] at hc; omega

/-- An element of two lists put together stands in the first of them, or in the second. -/
theorem append_cases {α : Type} {xs ys before after : List α} {v : α}
    (h : xs ++ ys = before ++ v :: after) :
    (∃ rest, xs = before ++ v :: rest) ∨
      ∃ rest, before = xs ++ rest ∧ ys = rest ++ v :: after := by
  rcases List.append_eq_append_iff.mp h with ⟨rest, hbefore, hys⟩ | ⟨rest, hxs, hafter⟩
  · exact .inr ⟨rest, hbefore, hys⟩
  · cases rest with
    | nil => exact .inr ⟨[], by simpa using hxs.symm, hafter.symm⟩
    | cons w rest =>
      obtain ⟨rfl, -⟩ := List.cons.inj hafter
      exact .inl ⟨rest, hxs⟩

/-- The check of an expression stops at its first variable that is not declared. -/
theorem check_of_undeclared (hk : scopes.Knows body) (hc : e.conversions = 0)
    {before after : List (String × Nat)} {name : String} {line : Nat}
    (hsplit : e.reads = before ++ (name, line) :: after)
    (hbefore : ∀ v ∈ before, Declared body v.1) (hname : ¬Declared body name) :
    (e.check scopes file).verdict = .error ⟨.variableNotDeclared name, line, file⟩ := by
  induction e generalizing before after with
  | number => simp [reads] at hsplit
  | symbol name' line' =>
    have hone : before = [] ∧ (name, line) = (name', line') := by
      cases before with
      | nil => exact ⟨rfl, (List.cons.inj hsplit).1.symm⟩
      | cons v before => simp [reads] at hsplit
    obtain ⟨rfl, rfl⟩ := Prod.mk.inj hone.2
    simp only [check, Scopes.fetch, hk.lookup_none hname]
    rfl
  | binary left operator right line' ihl ihr =>
    obtain ⟨hcl, hcr⟩ := Nat.add_eq_zero_iff.mp hc
    -- The variable is in the left operand, or the left one passes and it is in the right one.
    rcases append_cases hsplit with ⟨rest, hleft⟩ | ⟨rest, rfl, hright⟩
    · simp only [check, ihl hcl hleft hbefore]
    · obtain ⟨hvl, hrest⟩ := List.forall_mem_append.mp hbefore
      obtain ⟨l, m, lt, hl, -⟩ := elaborates_of_declared hk hcl hvl
      simp only [check, hl.check file, ihr hcr hright hrest]
  | convert => rw [conversions] at hc; omega

variable {target : Identifier} {expected : Ty}

/-- A value whose variables are declared passes, unless it is a `float` for an `int`. -/
theorem checkValue_of_fits (hk : scopes.Knows body) (hc : e.conversions = 0)
    (hv : ∀ v ∈ e.reads, Declared body v.1) (hfit : expected = .int → ¬e.HasFloat body) :
    (e.checkValue scopes file target expected).verdict = .ok () := by
  obtain ⟨e', n, ty, he, hty⟩ := elaborates_of_declared hk hc hv
  have hadapts : ∃ v m, e.Adapts scopes expected v m := by
    cases expected with
    | int =>
      cases ty with
      | int => exact ⟨_, _, .same he⟩
      | float => exact absurd (hty.mp rfl) (hfit rfl)
    | float =>
      cases ty with
      | int => exact ⟨_, _, .widened he rfl⟩
      | float => exact ⟨_, _, .same he⟩
  obtain ⟨v, m, hadapts⟩ := hadapts
  rw [checkValue_eq_ok_iff.mpr hadapts]

/-- A `float` for an `int` is refused with both types. -/
theorem checkValue_of_narrowing (hk : scopes.Knows body) (hc : e.conversions = 0)
    (hv : ∀ v ∈ e.reads, Declared body v.1) (hfloat : e.HasFloat body) :
    (e.checkValue scopes file target .int).verdict =
      .error ⟨.narrowingConversion target.name "int" "float", target.line, file⟩ := by
  obtain ⟨e', n, ty, he, hty⟩ := elaborates_of_declared hk hc hv
  obtain rfl : ty = .float := hty.mpr hfloat
  unfold checkValue
  rw [he.check file]
  rfl

theorem checkValue_of_error {d : Diagnostic} (h : (e.check scopes file).verdict = .error d) :
    (e.checkValue scopes file target expected).verdict = .error d := by
  unfold checkValue
  simp only [h]

end Expr

namespace Stmt

/-! ### Statements -/

variable {c : Checker} {earlier : List Stmt} {s : Stmt}

/-- Where the name of a statement is fine, the check of the statement is that of its value for the
type of the name, in scopes that know what is visible. -/
theorem verdict_of_value (hk : c.scopes.Knows earlier) (ht : s.TargetFine earlier) {e : Expr}
    (he : e ∈ s.value?) :
    ∃ (scopes : Scopes) (expected : Ty), scopes.Knows (s.visible earlier) ∧
      DeclaredAs (s.visible earlier) s.target.name expected ∧
      (c.statement s).1.verdict = (e.checkValue scopes c.file s.target expected).verdict := by
  cases s with
  | declaration target ty value line =>
    cases he
    -- The value is checked where the name is already there.
    have hadd : (c.scopes.add target.name ⟨ty, none⟩).Knows
        (earlier ++ [.declaration target ty (some e) line]) := hk.add ht (some e) line
    refine ⟨_, ty, hadd, ?_, ?_⟩
    · exact declaredAs_declaration.mpr (.inr ⟨rfl, rfl⟩)
    · simp only [Checker.statement, hk.declare_of_new ht]
      rfl
  | assignment target value line =>
    cases he
    obtain ⟨found, hf, hd⟩ := hk.exists_lookup ht
    refine ⟨c.scopes, found.ty, hk, hd, ?_⟩
    simp only [Checker.statement, Scopes.fetch_eq_ok_iff.mpr hf]
    rfl
  | print target line => cases he

/-- Where the name of a statement is fine, its declaration is known afterwards. -/
theorem knows_statement (hk : c.scopes.Knows earlier) (ht : s.TargetFine earlier) :
    (c.statement s).2.scopes.Knows (earlier ++ [s]) := by
  cases s with
  | declaration target ty value line =>
    have hadd : (c.scopes.add target.name ⟨ty, none⟩).Knows
        (earlier ++ [.declaration target ty value line]) := hk.add ht value line
    simp only [Checker.statement, hk.declare_of_new ht]
    cases value <;> exact hadd
  | assignment target value line =>
    obtain ⟨found, hf, -⟩ := hk.exists_lookup ht
    simp only [Checker.statement, Scopes.fetch_eq_ok_iff.mpr hf]
    exact hk.other (by simp)
  | print target line => exact hk.other (by simp)

/-- A check never changes the file. -/
theorem file_statement (c : Checker) (s : Stmt) : (c.statement s).2.file = c.file := by
  cases s with
  | declaration target ty value line =>
    simp only [Checker.statement]
    split
    · rfl
    · cases value <;> rfl
  | assignment target value line =>
    simp only [Checker.statement]
    split <;> rfl
  | print target line => rfl

/-- A well-formed statement passes. -/
theorem WellFormed.verdict_statement (h : s.WellFormed earlier) (hk : c.scopes.Knows earlier)
    (hc : s.conversions = 0) : (c.statement s).1.verdict = .ok () := by
  cases hv : s.value? with
  | some e =>
    obtain ⟨scopes, expected, hknows, hexpected, heq⟩ := verdict_of_value hk h.target hv
    have hfit : expected = .int → ¬e.HasFloat (s.visible earlier) := by
      rintro rfl
      exact h.fits e hv hexpected
    rw [heq]
    exact Expr.checkValue_of_fits hknows (conversions_eq_zero_iff.mp hc e hv) (h.declared e hv) hfit
  | none =>
    cases s with
    | declaration target ty value line =>
      cases hv
      simp only [Checker.statement, hk.declare_of_new h.target]
    | assignment target value line => cases hv
    | print target line =>
      obtain ⟨found, hf, -⟩ := hk.exists_lookup h.target
      simp only [Checker.statement, Scopes.fetch_eq_ok_iff.mpr hf]
      rfl

/-- A statement with a first violation is refused with it. -/
theorem FirstViolation.verdict_statement {cause : Cause} {line : Nat}
    (h : s.FirstViolation earlier cause line) (hk : c.scopes.Knows earlier)
    (hc : s.conversions = 0) : (c.statement s).1.verdict = .error ⟨cause, line, c.file⟩ := by
  cases h with
  | @redeclared target ty value line' hd =>
    obtain ⟨found, hf, -⟩ := hk.exists_lookup hd
    have hinner : c.scopes.inner.lookup target.name = some found := hk.inner_lookup.trans hf
    simp only [Checker.statement, Scopes.declare, hinner]
  | unassignable hd => simp only [Checker.statement, Scopes.fetch, hk.lookup_none hd]
  | unprintable hd =>
    simp only [Checker.statement, Scopes.fetch, hk.lookup_none hd]
    rfl
  | unreadable ht he hsplit hbefore hname =>
    obtain ⟨scopes, expected, hknows, -, heq⟩ := verdict_of_value (c := c) hk ht he
    rw [heq]
    exact Expr.checkValue_of_error
      (Expr.check_of_undeclared hknows (conversions_eq_zero_iff.mp hc _ he) hsplit hbefore hname)
  | narrowing ht he hv hint hfloat =>
    obtain ⟨scopes, expected, hknows, hexpected, heq⟩ := verdict_of_value (c := c) hk ht he
    obtain rfl : expected = .int := hknows.unique hexpected hint
    rw [heq]
    exact Expr.checkValue_of_narrowing hknows (conversions_eq_zero_iff.mp hc _ he) hv hfloat

end Stmt

/-! ### Programs -/

namespace Checker

variable {c : Checker} {s : Stmt} {body : List Stmt}

/-- Behind a statement that passes the checker goes on. -/
theorem statements_of_ok (h : (c.statement s).1.verdict = .ok ()) :
    (c.statements (s :: body)).1.verdict = ((c.statement s).2.statements body).1.verdict := by
  simp only [statements, h]

/-- At a statement that is refused the checker stops. -/
theorem statements_of_error {d : Diagnostic} (h : (c.statement s).1.verdict = .error d) :
    (c.statements (s :: body)).1.verdict = .error d := by
  simp only [statements, h]

end Checker

namespace Stmt

variable {c : Checker} {earlier body : List Stmt}

/-- Well-formed statements pass one after another. -/
theorem AllWellFormed.verdict_statements (h : AllWellFormed earlier body)
    (hk : c.scopes.Knows earlier) (hc : ∀ s ∈ body, s.conversions = 0) :
    (c.statements body).1.verdict = .ok () := by
  induction body generalizing c earlier with
  | nil => rfl
  | cons s body ih =>
    obtain ⟨hs, hbody⟩ := h
    obtain ⟨hcs, hcbody⟩ := List.forall_mem_cons.mp hc
    rw [Checker.statements_of_ok (hs.verdict_statement hk hcs)]
    exact ih hbody (knows_statement hk hs.target) hcbody

/-- Behind well-formed statements the first violation of the next one is reported. -/
theorem FirstViolation.verdict_statements {s : Stmt} {pre post : List Stmt} {cause : Cause}
    {line : Nat} (hpre : AllWellFormed earlier pre)
    (h : s.FirstViolation (earlier ++ pre) cause line) (hk : c.scopes.Knows earlier)
    (hc : ∀ s' ∈ pre ++ s :: post, s'.conversions = 0) :
    (c.statements (pre ++ s :: post)).1.verdict = .error ⟨cause, line, c.file⟩ := by
  induction pre generalizing c earlier with
  | nil =>
    rw [List.append_nil] at h
    exact Checker.statements_of_error (h.verdict_statement hk (hc s List.mem_cons_self))
  | cons s' pre ih =>
    obtain ⟨hs', hpre⟩ := hpre
    obtain ⟨hcs', hcrest⟩ := List.forall_mem_cons.mp hc
    have hnext : s.FirstViolation (earlier ++ [s'] ++ pre) cause line := by simpa using h
    rw [List.cons_append, Checker.statements_of_ok (hs'.verdict_statement hk hcs'),
      ih hpre hnext (knows_statement hk hs'.target) hcrest, file_statement]

/-- Statements are all well-formed, or there is a first that is not, with its violation. -/
theorem allWellFormed_or_violation (earlier body : List Stmt) :
    AllWellFormed earlier body ∨
      ∃ pre s post cause line, body = pre ++ s :: post ∧ AllWellFormed earlier pre ∧
        s.FirstViolation (earlier ++ pre) cause line := by
  induction body generalizing earlier with
  | nil => exact .inl trivial
  | cons s body ih =>
    rcases wellFormed_or_violation earlier s with hs | ⟨cause, line, hs⟩
    · rcases ih (earlier ++ [s]) with hbody | ⟨pre, s', post, cause, line, rfl, hpre, hs'⟩
      · exact .inl ⟨hs, hbody⟩
      · exact .inr ⟨s :: pre, s', post, cause, line, rfl, ⟨hs, hpre⟩, by simpa using hs'⟩
    · exact .inr ⟨[], s, body, cause, line, rfl, trivial, by simpa using hs⟩

end Stmt

/-- **A program without conversions passes if each of its statements is well-formed behind those
before it, and is otherwise refused with the violation of the first that is not.** -/
theorem check_reports_first_violation (p : Program) (file : Option String)
    (hc : p.conversions = 0) :
    ((p.check file).verdict = .ok () ↔ Stmt.AllWellFormed [] p.body) ∧
      ∀ d, (p.check file).verdict = .error d ↔
        ∃ pre s post, p.body = pre ++ s :: post ∧ Stmt.AllWellFormed [] pre ∧
          s.FirstViolation pre d.cause d.line ∧ d.file = file.getD defaultFile := by
  have hbody : ∀ s ∈ p.body, s.conversions = 0 := Program.conversions_eq_zero_iff.mp hc
  have hstart : (Checker.start file).scopes.Knows [] := Scopes.Knows.start
  have hok : Stmt.AllWellFormed [] p.body → (p.check file).verdict = .ok () :=
    fun h => h.verdict_statements hstart hbody
  have herror : ∀ pre s post cause line, p.body = pre ++ s :: post → Stmt.AllWellFormed [] pre →
      s.FirstViolation pre cause line →
      (p.check file).verdict = .error ⟨cause, line, file.getD defaultFile⟩ := by
    intro pre s post cause line hsplit hpre hs
    rw [hsplit] at hbody
    have hverdict := Stmt.FirstViolation.verdict_statements hpre hs hstart hbody
    rw [← hsplit] at hverdict
    exact hverdict
  -- The two cases exclude each other since the check gives one verdict.
  rcases Stmt.allWellFormed_or_violation [] p.body with
    hall | ⟨pre, s, post, cause, line, hsplit, hpre, hs⟩
  · refine ⟨iff_of_true (hok hall) hall, fun d => ⟨fun hd => ?_, ?_⟩⟩
    · rw [hok hall] at hd
      cases hd
    · rintro ⟨pre, s, post, hsplit, hpre, hs, hfile⟩
      rw [herror pre s post _ _ hsplit hpre hs, ← hfile]
  · have hrefused := herror pre s post cause line hsplit hpre hs
    refine ⟨⟨fun h => ?_, hok⟩, fun d => ⟨fun hd => ?_, ?_⟩⟩
    · rw [hrefused] at h
      cases h
    · rw [hrefused] at hd
      cases hd
      exact ⟨pre, s, post, hsplit, hpre, hs, rfl⟩
    · rintro ⟨pre, s, post, hsplit, hpre, hs, hfile⟩
      rw [herror pre s post _ _ hsplit hpre hs, ← hfile]

/-- `float b; int a = b / c;`, with nothing called `c`. -/
def unreadableProgram : Program :=
  ⟨[.declaration ⟨"b", 1⟩ .float none 1,
    .declaration ⟨"a", 2⟩ .int (some (.binary (.symbol "b" 3) .div (.symbol "c" 4) 3)) 2], 1⟩

/-- The unknown `c` is reported before the `float` in the value of `a`. -/
theorem check_reports_first_violation_unknown :
    unreadableProgram.conversions = 0 ∧
      (unreadableProgram.check none).verdict =
        .error ⟨.variableNotDeclared "c", 4, defaultFile⟩ := by
  have hc : unreadableProgram.conversions = 0 := rfl
  refine ⟨hc, ((check_reports_first_violation unreadableProgram none hc).2 _).mpr ?_⟩
  refine ⟨[_], _, [], rfl, ⟨⟨?_, nofun, nofun⟩, trivial⟩, ?_, rfl⟩
  · simp [Stmt.TargetFine, Declared, DeclaredAs]
  · have hsplit : (Expr.binary (.symbol "b" 3) .div (.symbol "c" 4) 3).reads =
        [("b", 3)] ++ ("c", 4) :: [] := rfl
    refine .unreadable ?_ rfl hsplit ?_ ?_
    · simp [Stmt.TargetFine, Declared, DeclaredAs]
    · rintro v hv
      obtain rfl := List.mem_singleton.mp hv
      exact ⟨.float, ⟨"b", 1⟩, none, 1, by simp [Stmt.visible], rfl⟩
    · rintro ⟨ty, target, value, line, hmem, hname⟩
      simp [Stmt.visible] at hmem
      rcases hmem with ⟨rfl, -⟩ | ⟨rfl, -⟩ <;> simp at hname

end DeskCalc
