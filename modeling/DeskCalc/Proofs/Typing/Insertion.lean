import DeskCalc.Proofs.Typing.Elaboration

/-!
Which conversions the checker puts into a tree. A conversion is needed where an integer stands directly
in a place for a double: beside an operand that is a double, or as the value of a variable of type
`float`. The checker puts conversions there and nowhere else, changes nothing else of the tree, also
of a tree that it refuses, and leaves no such place if it accepts the tree. Main statement:
`checker_inserts_needed_conversions`.
-/

namespace DeskCalc

/-! ### Where conversions are needed -/

/-- Of two operands, how many are integers beside a double. -/
def Ty.meeting : Option Ty → Option Ty → Nat
  | some .int, some .float => 1
  | some .float, some .int => 1
  | _, _ => 0

namespace Expr

/-- The type of an expression, if the names that it depends on are in scope: an operation on two
integers is an integer and any other operation a double, and a conversion has the type that it leads
to. -/
def type? (scopes : Scopes) : Expr → Option Ty
  | number _ ty _ => some ty
  | symbol name _ => (scopes.lookup name).map Symbol.ty
  | binary left _ right _ =>
    match left.type? scopes, right.type? scopes with
    | some .int, some .int => some .int
    | some _, some _ => some .float
    | _, _ => none
  | convert _ target _ => some target

/-- How many operands in an expression are integers beside a double. -/
def meetings (scopes : Scopes) : Expr → Nat
  | number .. => 0
  | symbol .. => 0
  | binary left _ right _ =>
    left.meetings scopes + right.meetings scopes +
      Ty.meeting (left.type? scopes) (right.type? scopes)
  | convert inner _ _ => inner.meetings scopes

/-- The same of the value of a variable, which is itself in a place for a double if the variable
is one. -/
def valueMeetings (scopes : Scopes) (expected : Ty) (e : Expr) : Nat :=
  e.meetings scopes + if expected = .float ∧ e.type? scopes = some .int then 1 else 0

/-! ### Expressions with conversions put in -/

/-- **Conversions put in where they are needed.** The second expression is the first one with so many
conversions more, each to `float`, on the line of what it is put around, and around an integer operand
beside a double. -/
inductive Inserts (scopes : Scopes) : Expr → Expr → Nat → Prop
  | same {e} : Inserts scopes e e 0
  | inside {inner i target line n} :
      Inserts scopes inner i n →
      Inserts scopes (convert inner target line) (convert i target line) n
  | operands {left right l r operator line m n} :
      Inserts scopes left l m → Inserts scopes right r n →
      Inserts scopes (binary left operator right line) (binary l operator r line) (m + n)
  | left {left right l r operator line m n} :
      Inserts scopes left l m → Inserts scopes right r n →
      left.type? scopes = some .int → right.type? scopes = some .float →
      Inserts scopes (binary left operator right line)
        (binary (convert l .float left.line) operator r line) (m + n + 1)
  | right {left right l r operator line m n} :
      Inserts scopes left l m → Inserts scopes right r n →
      left.type? scopes = some .float → right.type? scopes = some .int →
      Inserts scopes (binary left operator right line)
        (binary l operator (convert r .float right.line) line) (m + n + 1)

/-- The same for the value of a variable: a conversion may also be put around the whole value, if it
is an integer and the variable a double. -/
inductive InsertsFor (scopes : Scopes) (expected : Ty) : Expr → Expr → Nat → Prop
  | within {e e' n} : e.Inserts scopes e' n → InsertsFor scopes expected e e' n
  | whole {e e' n} :
      e.Inserts scopes e' n → e.type? scopes = some .int → expected = .float →
      InsertsFor scopes expected e (convert e' .float e.line) (n + 1)

variable {scopes : Scopes} {e e' : Expr} {n : Nat} {ty expected : Ty} {file : String}

namespace Inserts

theorem line_eq (h : e.Inserts scopes e' n) : e'.line = e.line := by
  cases h <;> rfl

/-- Each conversion that is put in is one node more. -/
theorem conversions_eq (h : e.Inserts scopes e' n) : e'.conversions = e.conversions + n := by
  induction h with
  | same => rfl
  | inside _ ih => simp only [conversions, ih, Nat.add_assoc]
  | operands _ _ ihl ihr =>
    simp only [conversions, ihl, ihr]
    omega
  | left _ _ _ _ ihl ihr =>
    simp only [conversions, ihl, ihr]
    omega
  | right _ _ _ _ ihl ihr =>
    simp only [conversions, ihl, ihr]
    omega

end Inserts

theorem InsertsFor.conversions_eq (h : e.InsertsFor scopes expected e' n) :
    e'.conversions = e.conversions + n := by
  rcases h with he | ⟨he, -, -⟩
  · exact he.conversions_eq
  · rw [conversions, he.conversions_eq]
    omega

/-! ### Accepted expressions -/

theorem Elaborates.type?_eq (h : e.Elaborates scopes e' n ty) : e.type? scopes = some ty := by
  induction h with
  | number => rfl
  | symbol hs => rw [type?, hs, Option.map_some]
  | integers _ _ ihl ihr => rw [type?, ihl, ihr]
  | @doubles _ _ _ _ _ _ _ _ lt rt _ _ hne ihl ihr =>
    rw [type?, ihl, ihr]
    cases lt <;> cases rt <;> first | rfl | exact absurd ⟨rfl, rfl⟩ hne
  | convert => rfl

theorem type?_widened (h : e.type? scopes = some ty) :
    (e.widened ty).type? scopes = some .float := by
  cases ty with
  | int => rfl
  | float => exact h

theorem meetings_widened (e : Expr) (ty : Ty) :
    (e.widened ty).meetings scopes = e.meetings scopes := by
  cases ty <;> rfl

/-- **An accepted expression gets a conversion in every place that needs one**, and no place that
needs one is left. -/
theorem Elaborates.meetings_eq (h : e.Elaborates scopes e' n ty) :
    n = e.meetings scopes ∧ e'.meetings scopes = 0 := by
  induction h with
  | number => exact ⟨rfl, rfl⟩
  | symbol => exact ⟨rfl, rfl⟩
  | integers hl hr ihl ihr =>
    rw [meetings, meetings, hl.type?_eq, hr.type?_eq, hl.idempotent.type?_eq,
      hr.idempotent.type?_eq, ← ihl.1, ← ihr.1, ihl.2, ihr.2]
    exact ⟨rfl, rfl⟩
  | @doubles _ _ _ _ _ _ _ _ lt rt hl hr hne ihl ihr =>
    have hcount : Ty.meeting (some lt) (some rt) = lt.widenings + rt.widenings := by
      cases lt <;> cases rt <;> first | rfl | exact absurd ⟨rfl, rfl⟩ hne
    rw [meetings, meetings, hl.type?_eq, hr.type?_eq, hcount, type?_widened hl.idempotent.type?_eq,
      type?_widened hr.idempotent.type?_eq, meetings_widened, meetings_widened, ← ihl.1, ← ihr.1,
      ihl.2, ihr.2, Nat.add_assoc _ lt.widenings]
    exact ⟨rfl, rfl⟩
  | convert _ ih => exact ih

theorem Adapts.valueMeetings_eq (h : e.Adapts scopes expected e' n) :
    n = e.valueMeetings scopes expected ∧ e'.valueMeetings scopes expected = 0 := by
  rcases h with he | ⟨he, rfl⟩
  · obtain ⟨hbefore, hafter⟩ := he.meetings_eq
    have hfits : ¬(expected = .float ∧ some expected = some .int) := by
      rintro ⟨rfl, h⟩
      cases h
    rw [valueMeetings, valueMeetings, he.type?_eq, he.idempotent.type?_eq, if_neg hfits, ← hbefore,
      hafter]
    exact ⟨rfl, rfl⟩
  · obtain ⟨hbefore, hafter⟩ := he.meetings_eq
    rw [valueMeetings, he.type?_eq, if_pos ⟨rfl, rfl⟩, ← hbefore]
    exact ⟨rfl, hafter⟩

/-! ### All expressions, also those that are refused -/

/-- **The checker puts conversions into an expression only where they are needed**, whether it accepts
the expression or not. -/
theorem check_inserts (scopes : Scopes) (file : String) (e : Expr) :
    e.Inserts scopes (e.check scopes file).tree (e.check scopes file).inserted := by
  induction e with
  | number => exact .same
  | symbol => exact .same
  | binary left operator right line ihl ihr =>
    simp only [check]
    rcases hl : left.check scopes file with ⟨l, m, lv⟩
    rcases hr : right.check scopes file with ⟨r, k, rv⟩
    rw [hl] at ihl
    rw [hr] at ihr
    cases lv with
    | error d => exact .operands ihl .same
    | ok lt =>
      cases rv with
      | error d => exact .operands ihl ihr
      | ok rt =>
        have hlt := (elaborates_of_check hl).type?_eq
        have hrt := (elaborates_of_check hr).type?_eq
        -- only operands that were both accepted are widened
        cases lt with
        | int =>
          cases rt with
          | int => exact .operands ihl ihr
          | float =>
            have hwrap : l.wrap .float = convert l .float left.line := by rw [wrap, ihl.line_eq]
            show Inserts scopes _ (binary (l.wrap .float) operator r line) (m + k + 1)
            rw [hwrap]
            exact .left ihl ihr hlt hrt
        | float =>
          cases rt with
          | int =>
            have hwrap : r.wrap .float = convert r .float right.line := by rw [wrap, ihr.line_eq]
            show Inserts scopes _ (binary l operator (r.wrap .float) line) (m + k + 1)
            rw [hwrap]
            exact .right ihl ihr hlt hrt
          | float =>
            show Inserts scopes _ (binary l operator r line) (m + k)
            exact .operands ihl ihr
  | convert inner target line ih => exact .inside ih

theorem checkValue_inserts (scopes : Scopes) (file : String) (target : Identifier) (expected : Ty)
    (e : Expr) :
    e.InsertsFor scopes expected (e.checkValue scopes file target expected).tree
      (e.checkValue scopes file target expected).inserted := by
  have hinserts := e.check_inserts scopes file
  unfold checkValue
  rcases hc : e.check scopes file with ⟨v, m, verdict⟩
  rw [hc] at hinserts
  cases verdict with
  | error d => exact .within hinserts
  | ok received =>
    have htype := (elaborates_of_check hc).type?_eq
    cases expected with
    | int =>
      cases received with
      | int => exact .within hinserts
      | float => exact .within hinserts
    | float =>
      cases received with
      | int =>
        have hwrap : v.wrap .float = convert v .float e.line := by rw [wrap, hinserts.line_eq]
        show InsertsFor scopes .float e (v.wrap .float) (m + 1)
        rw [hwrap]
        exact .whole hinserts htype rfl
      | float => exact .within hinserts

end Expr

/-! ### Statements -/

/-- The names in scope behind a statement: one more if it declares a new one. -/
def Scopes.behind (scopes : Scopes) : Stmt → Scopes
  | .declaration target ty _ _ =>
    if scopes.inner.lookup target.name = none then scopes.add target.name ⟨ty, none⟩ else scopes
  | .assignment .. => scopes
  | .print .. => scopes

namespace Stmt

/-- How many integers in a statement stand in places for doubles. The names are those before the
statement; a declared variable is in scope in its own value. -/
def meetings (scopes : Scopes) (s : Stmt) : Nat :=
  match s with
  | declaration _ ty (some value) _ => value.valueMeetings (scopes.behind s) ty
  | assignment target value _ =>
    match scopes.lookup target.name with
    | some found => value.valueMeetings scopes found.ty
    | none => 0
  | _ => 0

def allMeetings (scopes : Scopes) : List Stmt → Nat
  | [] => 0
  | s :: body => s.meetings scopes + allMeetings (scopes.behind s) body

/-- **Conversions put into the value of a statement** where they are needed, if the variable that it is
for may be declared or is in scope. -/
inductive Inserts (scopes : Scopes) : Stmt → Stmt → Nat → Prop
  | same {s} : Inserts scopes s s 0
  | declaration {target ty line value value' n} :
      scopes.inner.lookup target.name = none →
      value.InsertsFor (scopes.add target.name ⟨ty, none⟩) ty value' n →
      Inserts scopes (declaration target ty (some value) line)
        (declaration target ty (some value') line) n
  | assignment {target line value value' n found} :
      scopes.lookup target.name = some found → value.InsertsFor scopes found.ty value' n →
      Inserts scopes (assignment target value line) (assignment target value' line) n

inductive AllInsert : Scopes → List Stmt → List Stmt → Nat → Prop
  | nil {scopes} : AllInsert scopes [] [] 0
  | cons {scopes s s' body body' m n} :
      s.Inserts scopes s' m → AllInsert (scopes.behind s) body body' n →
      AllInsert scopes (s :: body) (s' :: body') (m + n)

variable {scopes scopes' : Scopes} {s s' : Stmt} {body body' : List Stmt} {n : Nat}

theorem AllInsert.same (scopes : Scopes) (body : List Stmt) : AllInsert scopes body body 0 := by
  induction body generalizing scopes with
  | nil => exact .nil
  | cons s body ih => exact .cons .same (ih _)

theorem Inserts.conversions_eq (h : s.Inserts scopes s' n) :
    s'.conversions = s.conversions + n := by
  cases h with
  | same => rfl
  | declaration _ hv => exact hv.conversions_eq
  | assignment _ hv => exact hv.conversions_eq

/-- Conversions are counted from the front, here from counts that differ by those put in before. -/
theorem AllInsert.conversions_eq (h : AllInsert scopes body body' n) (before count : Nat) :
    body'.foldl (fun n s => n + s.conversions) (count + before) =
      body.foldl (fun n s => n + s.conversions) count + (before + n) := by
  induction h generalizing before count with
  | nil => rfl
  | @cons _ s s' body body' m n hs _ ih =>
    have hcount : count + before + s'.conversions = count + s.conversions + (before + m) := by
      rw [hs.conversions_eq]
      omega
    rw [List.foldl_cons, List.foldl_cons, hcount, ih]
    omega

theorem Accepted.behind_eq (h : s.Accepted scopes s' n scopes') : scopes' = scopes.behind s := by
  cases h with
  | declaration hn => rw [Scopes.behind, if_pos hn]
  | initialised hn _ => rw [Scopes.behind, if_pos hn]
  | assignment => rfl
  | print => rfl

theorem Accepted.meetings_eq (h : s.Accepted scopes s' n scopes') :
    n = s.meetings scopes ∧ s'.meetings scopes = 0 := by
  cases h with
  | declaration => exact ⟨rfl, rfl⟩
  | initialised hn hv =>
    simp only [meetings, Scopes.behind, if_pos hn]
    exact hv.valueMeetings_eq
  | assignment hl hv =>
    simp only [meetings, hl]
    exact hv.valueMeetings_eq
  | print => exact ⟨rfl, rfl⟩

/-- The names behind a statement do not depend on the conversions in it. -/
theorem Accepted.behind_tree (h : s.Accepted scopes s' n scopes') :
    scopes.behind s' = scopes.behind s := by
  cases h <;> rfl

theorem AllAccepted.meetings_eq (h : AllAccepted scopes body body' n scopes') :
    n = allMeetings scopes body ∧ allMeetings scopes body' = 0 := by
  induction h with
  | nil => exact ⟨rfl, rfl⟩
  | cons hs _ ih =>
    obtain ⟨hbefore, hafter⟩ := hs.meetings_eq
    rw [hs.behind_eq] at ih
    rw [allMeetings, allMeetings, hs.behind_tree, ← hbefore, hafter, ← ih.1, ih.2]
    exact ⟨rfl, rfl⟩

end Stmt

namespace Checker

/-! ### Calls of the checker -/

theorem statement_inserts (c : Checker) (s : Stmt) :
    s.Inserts c.scopes (c.statement s).1.tree (c.statement s).1.inserted := by
  cases s with
  | declaration target ty value line =>
    simp only [statement]
    cases hd : c.scopes.declare target.name ⟨ty, none⟩ target.line c.file with
    | error d => exact .same
    | ok scopes =>
      obtain ⟨hn, rfl⟩ := Scopes.declare_eq_ok_iff.mp hd
      cases value with
      | none => exact .same
      | some e => exact .declaration hn (e.checkValue_inserts _ _ _ _)
  | assignment target e line =>
    simp only [statement]
    cases hf : c.scopes.fetch target.name target.line c.file with
    | error d => exact .same
    | ok found => exact .assignment (Scopes.fetch_eq_ok_iff.mp hf) (e.checkValue_inserts _ _ _ _)
  | print target line => exact .same

theorem scopes_statement (c : Checker) (s : Stmt) :
    (c.statement s).2.scopes = c.scopes.behind s := by
  cases s with
  | declaration target ty value line =>
    simp only [statement, Scopes.behind, Scopes.declare]
    cases hn : c.scopes.inner.lookup target.name with
    | some found => rfl
    | none => cases value <;> rfl
  | assignment target e line =>
    simp only [statement, Scopes.behind]
    cases c.scopes.fetch target.name target.line c.file <;> rfl
  | print target line => rfl

theorem conversions_statement (c : Checker) (s : Stmt) :
    (c.statement s).2.conversions = c.conversions + (c.statement s).1.inserted := by
  cases s with
  | declaration target ty value line =>
    simp only [statement]
    cases c.scopes.declare target.name ⟨ty, none⟩ target.line c.file with
    | error d => rfl
    | ok scopes => cases value <;> rfl
  | assignment target e line =>
    simp only [statement]
    cases c.scopes.fetch target.name target.line c.file <;> rfl
  | print target line => rfl

/-- **What was done before a refusal stays and is counted**: statements in order, of which the first
that is refused ends the check. -/
theorem statements_inserts (c : Checker) (body : List Stmt) :
    Stmt.AllInsert c.scopes body (c.statements body).1.tree (c.statements body).1.inserted ∧
      (c.statements body).2.conversions = c.conversions + (c.statements body).1.inserted := by
  induction body generalizing c with
  | nil => exact ⟨.nil, rfl⟩
  | cons s body ih =>
    have hinserts := c.statement_inserts s
    have hscopes := c.scopes_statement s
    have hcount := c.conversions_statement s
    simp only [statements]
    rcases hs : c.statement s with ⟨⟨s', m, verdict⟩, c'⟩
    rw [hs] at hinserts hscopes hcount
    cases verdict with
    | error d => exact ⟨.cons hinserts (.same _ body), hcount⟩
    | ok u =>
      obtain ⟨hrest, hmore⟩ := ih c'
      have hnames : c'.scopes = c.scopes.behind s := hscopes
      rw [hnames] at hrest
      refine ⟨.cons hinserts hrest, ?_⟩
      have hfirst : c'.conversions = c.conversions + m := hcount
      rw [hmore, hfirst, Nat.add_assoc]

/-- **What a call of the checker does**: it puts in conversions only where they are needed, so many more
are in the tree, and by so many its count goes up; and if it accepts the tree, there is a new one in
each place that needed it, and no place that needs one is left. -/
structure Rewrites {α τ : Type} (c : Checker) (inserts : α → α → Nat → Prop)
    (conversions meetings : α → Nat) (before : α) (call : Checked α τ × Checker) : Prop where
  inserts : inserts before call.1.tree call.1.inserted
  conversions : conversions call.1.tree = conversions before + call.1.inserted
  counted : call.2.conversions = c.conversions + call.1.inserted
  complete : ∀ a, call.1.verdict = .ok a →
    call.1.inserted = meetings before ∧ meetings call.1.tree = 0

end Checker

namespace Program

/-- How many integers in a program stand in places for doubles. -/
def meetings (scopes : Scopes) (p : Program) : Nat :=
  Stmt.allMeetings scopes p.body

def Inserts (scopes : Scopes) (p p' : Program) (n : Nat) : Prop :=
  p'.line = p.line ∧ Stmt.AllInsert scopes p.body p'.body n

theorem Inserts.conversions_eq {scopes : Scopes} {p p' : Program} {n : Nat}
    (h : p.Inserts scopes p' n) : p'.conversions = p.conversions + n := by
  have hcount : p'.conversions = p.conversions + (0 + n) := h.2.conversions_eq 0 0
  rw [hcount, Nat.zero_add]

end Program

/-- **The checker puts in the needed conversions and changes nothing else.** This holds of every call,
with an expression, a statement or a program, whatever the checker knows and has done before, and
whether it accepts the tree or not. -/
theorem checker_inserts_needed_conversions (c : Checker) :
    (∀ e : Expr, c.Rewrites (Expr.Inserts c.scopes) Expr.conversions (Expr.meetings c.scopes) e
      (c.expr e)) ∧
    (∀ s : Stmt, c.Rewrites (Stmt.Inserts c.scopes) Stmt.conversions (Stmt.meetings c.scopes) s
      (c.statement s)) ∧
    (∀ p : Program, c.Rewrites (Program.Inserts c.scopes) Program.conversions
      (Program.meetings c.scopes) p (c.program p)) := by
  refine ⟨fun e => ?_, fun s => ?_, fun p => ?_⟩
  · have hinserts := e.check_inserts c.scopes c.file
    refine ⟨hinserts, hinserts.conversions_eq, rfl, fun ty hv => ?_⟩
    have hcheck : e.check c.scopes c.file = ⟨(c.expr e).1.tree, (c.expr e).1.inserted, .ok ty⟩ := by
      rw [← hv]
      rfl
    exact (Expr.elaborates_of_check hcheck).meetings_eq
  · have hinserts := c.statement_inserts s
    refine ⟨hinserts, hinserts.conversions_eq, c.conversions_statement s, fun _ hv => ?_⟩
    have hcheck : (c.statement s).1 = ⟨(c.statement s).1.tree, (c.statement s).1.inserted, .ok ()⟩ := by
      rw [← hv]
    exact (Checker.statement_eq_ok_iff.mp ⟨hcheck, rfl⟩).meetings_eq
  · obtain ⟨hbody, hcount⟩ := c.statements_inserts p.body
    have hinserts : p.Inserts c.scopes (c.program p).1.tree (c.program p).1.inserted := ⟨rfl, hbody⟩
    refine ⟨hinserts, hinserts.conversions_eq, hcount, fun _ hv => ?_⟩
    have hcheck : (c.statements p.body).1 =
        ⟨(c.statements p.body).1.tree, (c.statements p.body).1.inserted, .ok ()⟩ := by
      rw [← hv]
      rfl
    exact (Checker.statements_eq_ok_iff.mp ⟨hcheck, rfl⟩).meetings_eq

/-- A sum that is refused at its last name keeps the conversion inside its first operand. -/
example : ((Checker.start none).expr
      (.binary (.binary (.number "1" .int 1) .add (.number "0.5" .float 1) 1) .add (.symbol "x" 2) 2)
    ).1.tree =
      .binary (.binary (.convert (.number "1" .int 1) .float 1) .add (.number "0.5" .float 1) 1) .add
        (.symbol "x" 2) 2 := by
  decide

end DeskCalc
