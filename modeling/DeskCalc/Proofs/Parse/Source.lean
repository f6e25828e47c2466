import DeskCalc.Parse.Stmt
import DeskCalc.Proofs.Outcome
import DeskCalc.Proofs.Parse.Passing
import DeskCalc.Proofs.Tree.Contents

/-!
Trees that were read from source texts. What every token satisfies and every way to put expressions
together keeps, holds of every expression that is read. Main statement: a tree that was read has no
conversions, and its literals stand for numbers of their types in the spelling of source texts
(`plain_of_parse`).
-/

namespace DeskCalc

namespace Parse

/-! ### What a rule yields -/

variable {α β : Type} {I J K : Cursor → Prop} {P : α → Prop} {Q : β → Prop}

/-- Where the rule succeeds on a cursor of the first kind, it gives a value that satisfies `P` and
leaves a cursor of the second kind. -/
def Yields (I J : Cursor → Prop) (x : Parse α) (P : α → Prop) : Prop :=
  ∀ c a c', I c → x c = .ok a c' → P a ∧ J c'

theorem Yields.bind {x : Parse α} {f : α → Parse β} (hx : Yields I J x P)
    (hf : ∀ a, P a → Yields J K (f a) Q) : Yields I K (x >>= f) Q := by
  intro c b c'' hI h
  obtain ⟨a, c', hr, hb⟩ := bind_eq_ok_iff.mp h
  obtain ⟨hP, hJ⟩ := hx c a c' hI hr
  exact hf a hP c' b c'' hJ hb

theorem yields_pure {a : α} (ha : P a) : Yields I I (pure a) P := by
  intro c a' c' hI h
  cases h
  exact ⟨ha, hI⟩

theorem yields_unexpected (message : String) : Yields I J (unexpected message) P := by
  intro c a c' _ h
  cases h

theorem yields_ofExcept {r : Except Diagnostic α} (h : ∀ a, r = .ok a → P a) :
    Yields I I (ofExcept r) P := by
  cases r with
  | error d =>
    intro c a c' _ hr
    cases hr
  | ok a => exact yields_pure (h a rfl)

theorem Yields.get {f : Cursor → Parse α} (h : ∀ c, Yields I J (f c) P) :
    Yields I J (get >>= f) P :=
  fun c a c' hI hr => h c c a c' hI hr

/-! ### Tokens -/

/-- Every token from the cursor onwards satisfies `T`. -/
structure Ahead (T : Token → Prop) (c : Cursor) : Prop where
  current : T c.current
  results : ∀ t, .ok t ∈ c.feed.results → T t
  last : T c.feed.last

/-- Every token from the cursor onwards satisfies `T`, and less than `n` is left to read. -/
def AheadBelow (T : Token → Prop) (n : Nat) (c : Cursor) : Prop :=
  Ahead T c ∧ c.weight < n

variable {T : Token → Prop} {n : Nat}

theorem Yields.below {x : Parse α} (hx : Yields (Ahead T) (Ahead T) x P) :
    Yields (AheadBelow T n) (Ahead T) x P :=
  fun c a c' hI h => hx c a c' hI.1 h

/-- After a rule that reads something less is left to read. -/
theorem Yields.bindShrinking {x : Parse α} {f : α → Parse β} (hs : Shrinking x)
    (hx : Yields (AheadBelow T (n + 1)) (Ahead T) x P)
    (hf : ∀ a, P a → Yields (AheadBelow T n) K (f a) Q) :
    Yields (AheadBelow T (n + 1)) K (x >>= f) Q := by
  refine Yields.bind (J := AheadBelow T n) (fun c a c' hI h => ?_) hf
  obtain ⟨hP, hJ⟩ := hx c a c' hI h
  have hw := hs c
  rw [h] at hw
  have hn := hI.2
  exact ⟨hP, hJ, by simp only [Within] at hw; omega⟩

theorem yields_advance : Yields (Ahead T) (Ahead T) advance T := by
  intro c t c' hI h
  unfold advance Feed.next at h
  split at h
  · rename_i next feed hn
    cases h
    refine ⟨hI.current, ?_⟩
    split at hn
    · cases hn
      exact ⟨hI.last, hI.results, hI.last⟩
    · rename_i r results hr
      cases hn
      exact ⟨hI.results _ (hr ▸ List.mem_cons_self), fun t ht => hI.results t
        (hr ▸ List.mem_cons_of_mem _ ht), hI.last⟩
  · cases h

theorem yields_expect (kind : Token.Kind) :
    Yields (Ahead T) (Ahead T) (expect kind) fun t => T t ∧ t.kind = kind := by
  intro c t c' hI h
  unfold expect at h
  split at h
  · rename_i hk
    obtain ⟨hT, hJ⟩ := yields_advance c t c' hI h
    have ht : t = c.current := (advance_eq_ok h).1
    exact ⟨⟨hT, ht ▸ hk⟩, hJ⟩
  · cases h

/-! ### Expressions -/

/-- Every way in which a source text puts an expression together keeps `P`. -/
structure Builds (T : Token → Prop) (P : Expr → Prop) : Prop where
  integer : ∀ t, T t → t.kind = .integer → Ty.int.admits t.text = true → P (.number t.text .int t.line)
  decimal : ∀ t, T t → t.kind = .decimal → Ty.float.admits t.text = true →
    P (.number t.text .float t.line)
  symbol : ∀ t, T t → t.kind = .identifier → P (.symbol t.text t.line)
  binary : ∀ left operator right line, P left → P right → P (.binary left operator right line)

variable {P : Expr → Prop}

theorem yields_number {kind : Token.Kind} {ty : Ty}
    (h : ∀ t, T t → t.kind = kind → ty.admits t.text = true → P (.number t.text ty t.line)) :
    Yields (Ahead T) (Ahead T) (number kind ty) P := by
  refine (yields_expect kind).bind fun t ht => yields_ofExcept fun e he => ?_
  unfold Expr.buildNumber at he
  split at he
  · cases he
  · split at he
    · rename_i hadm
      cases he
      exact h t ht.1 ht.2 hadm
    · cases he

theorem yields_symbol (h : Builds T P) : Yields (Ahead T) (Ahead T) symbol P := by
  refine (yields_expect .identifier).bind fun t ht => yields_ofExcept fun e he => ?_
  unfold Expr.buildSymbol at he
  split at he
  · cases he
  · cases he
    exact h.symbol t ht.1 ht.2

/-- All rules for expressions yield `P` where less than `n` is left to read. -/
structure ExprsYield (T : Token → Prop) (P : Expr → Prop) (n : Nat) : Prop where
  expr : Yields (AheadBelow T n) (Ahead T) expr P
  term : Yields (AheadBelow T n) (Ahead T) term P
  atom : Yields (AheadBelow T n) (Ahead T) atom P
  tail : ∀ level left, P left → Yields (AheadBelow T n) (Ahead T) (chainTail level left) P

theorem ExprsYield.operand (h : ExprsYield T P n) (level : Level) :
    Yields (AheadBelow T n) (Ahead T) (operandOf level) P := by
  cases level with
  | sum => exact h.term
  | product => exact h.atom

theorem yields_atom_succ (hb : Builds T P) (h : ExprsYield T P n) :
    Yields (AheadBelow T (n + 1)) (Ahead T) Parse.atom P := by
  intro c e c' hI he
  rw [atom_eq] at he
  cases hk : c.current.kind <;> simp only [hk] at he
  case integer => exact yields_number hb.integer c e c' hI.1 he
  case decimal => exact yields_number hb.decimal c e c' hI.1 he
  case identifier => exact yields_symbol hb c e c' hI.1 he
  case openParen =>
    rw [advance_bind_eq, hk] at he
    refine Yields.bindShrinking (expect_shrinking (by decide)) (yields_expect _).below
      (fun _ _ => ?_) c e c' hI he
    exact h.expr.bind fun e he => (yields_expect _).bind fun _ _ => yields_pure he
  all_goals cases he

theorem yields_tail_succ (hb : Builds T P) (h : ExprsYield T P n) (level : Level) (left : Expr)
    (hl : P left) : Yields (AheadBelow T (n + 1)) (Ahead T) (chainTail level left) P := by
  intro c e c' hI he
  rw [chainTail_eq] at he
  cases ho : level.operator? c.current.kind with
  | none =>
    simp only [ho] at he
    cases he
    exact ⟨hl, hI.1⟩
  | some operator =>
    have hne : c.current.kind ≠ .endOfInput := by
      intro hk
      rw [hk, Level.operator?_endOfInput] at ho
      cases ho
    simp only [ho] at he
    rw [advance_bind_eq] at he
    refine Yields.bindShrinking (expect_shrinking hne) (yields_expect _).below
      (fun token _ => ?_) c e c' hI he
    -- the operand and what follows it have less left to read
    cases n with
    | zero => exact fun c _ _ hI _ => absurd hI.2 (Nat.not_lt_zero _)
    | succ n =>
      refine Yields.bindShrinking (operand_shrinking level) (h.operand level) fun right hr => ?_
      intro c' e c'' hI he
      have hn : AheadBelow T (n + 1) c' := ⟨hI.1, Nat.lt_succ_of_lt hI.2⟩
      exact h.tail level _ (hb.binary left operator right _ hl hr) c' e c'' hn he

theorem yields_term_succ (hb : Builds T P) (h : ExprsYield T P n) :
    Yields (AheadBelow T (n + 1)) (Ahead T) term P := by
  rw [term_eq]
  exact Yields.bindShrinking atom_shrinking (yields_atom_succ hb h) (h.tail .product)

theorem yields_expr_succ (hb : Builds T P) (h : ExprsYield T P n) :
    Yields (AheadBelow T (n + 1)) (Ahead T) expr P := by
  rw [expr_eq]
  exact Yields.bindShrinking term_shrinking (yields_term_succ hb h) (h.tail .sum)

theorem exprsYield (hb : Builds T P) (n : Nat) : ExprsYield T P n := by
  induction n with
  | zero =>
    have hzero : ∀ {x : Parse Expr}, Yields (AheadBelow T 0) (Ahead T) x P :=
      fun _ _ _ hI _ => absurd hI.2 (Nat.not_lt_zero _)
    exact ⟨hzero, hzero, hzero, fun _ _ _ => hzero⟩
  | succ n ih =>
    exact ⟨yields_expr_succ hb ih, yields_term_succ hb ih, yields_atom_succ hb ih,
      yields_tail_succ hb ih⟩

theorem yields_expr (hb : Builds T P) : Yields (Ahead T) (Ahead T) expr P :=
  fun c e c' hI he =>
    (exprsYield hb (c.weight + 1)).expr c e c' ⟨hI, Nat.lt_succ_self _⟩ he

/-! ### Statements and programs -/

/-- The expressions of the statement satisfy `P`. -/
def StmtOf (P : Expr → Prop) (s : Stmt) : Prop := ∀ e ∈ s.value?, P e

theorem yields_identifier : Yields (Ahead T) (Ahead T) identifier fun _ => True :=
  (yields_expect _).bind fun _ _ => yields_ofExcept fun _ _ => trivial

theorem yields_typeName : Yields (Ahead T) (Ahead T) typeName fun _ => True := by
  refine Yields.get fun c => ?_
  split
  · exact (yields_expect _).bind fun _ _ => yields_pure trivial
  · exact (yields_expect _).bind fun _ _ => yields_pure trivial
  · exact yields_unexpected _

theorem yields_initialValue (hb : Builds T P) :
    Yields (Ahead T) (Ahead T) initialValue fun value => ∀ e ∈ value, P e := by
  refine Yields.get fun c => ?_
  split
  · refine (yields_expect _).bind fun _ _ => (yields_expr hb).bind fun e he => yields_pure ?_
    simpa using he
  · exact yields_pure (by simp)

theorem yields_statement (hb : Builds T P) :
    Yields (Ahead T) (Ahead T) statement (StmtOf P) := by
  refine Yields.get fun c => ?_
  have hrule : ∀ rule : Rule, Yields (Ahead T) (Ahead T) rule.parse (StmtOf P) := by
    intro rule
    cases rule with
    | declaration =>
      refine yields_typeName.bind fun ty _ => yields_identifier.bind fun target _ => ?_
      exact (yields_initialValue hb).bind fun value hv =>
        (yields_expect _).bind fun _ _ => yields_pure hv
    | print =>
      refine (yields_expect _).bind fun _ _ => yields_identifier.bind fun target _ => ?_
      exact (yields_expect _).bind fun _ _ => yields_pure (by simp [StmtOf, Stmt.value?])
    | assignment =>
      refine yields_identifier.bind fun target _ => (yields_expect _).bind fun _ _ => ?_
      exact (yields_expr hb).bind fun e he =>
        (yields_expect _).bind fun _ _ => yields_pure (by simpa [StmtOf, Stmt.value?] using he)
  split
  · exact hrule _
  · exact yields_unexpected _

theorem yields_statements (hb : Builds T P) (n : Nat) :
    Yields (AheadBelow T n) (Ahead T) statements fun body => ∀ s ∈ body, StmtOf P s := by
  induction n with
  | zero => exact fun _ _ _ hI _ => absurd hI.2 (Nat.not_lt_zero _)
  | succ n ih =>
    intro c body c' hI h
    rw [statements_eq] at h
    split at h
    · cases h
      exact ⟨by simp, hI.1⟩
    · have hall : Yields (AheadBelow T (n + 1)) (Ahead T) (do
          let s ← statement
          let body ← statements
          return s :: body) fun body => ∀ s ∈ body, StmtOf P s :=
        Yields.bindShrinking statement_shrinking (yields_statement hb).below fun s hs =>
          ih.bind fun rest hrest => yields_pure (List.forall_mem_cons.mpr ⟨hs, hrest⟩)
      exact hall c body c' hI h

theorem yields_program (hb : Builds T P) :
    Yields (Ahead T) (Ahead T) program fun p => ∀ s ∈ p.body, StmtOf P s := by
  refine Yields.get fun c => ?_
  have hall : Yields (Ahead T) (Ahead T) statements fun body => ∀ s ∈ body, StmtOf P s :=
    fun c body c' hI h =>
      yields_statements hb (c.weight + 1) c body c' ⟨hI, Nat.lt_succ_self _⟩ h
  exact hall.bind fun body hbody => (yields_expect _).bind fun _ _ => yields_pure hbody

theorem ahead_ofSource {source : String} {file : Option String} {c : Cursor}
    (h : Cursor.ofSource source file = .ok c) : Ahead Token.Lexed c := by
  unfold Cursor.ofSource at h
  have hmem : ∀ t, .ok t ∈ (Scanner.ofSource source file).feed.results → t.Lexed :=
    fun t ht => (Scanner.genuine_of_mem_feed ht).lexed
  generalize (Scanner.ofSource source file).feed = feed at h hmem
  unfold Feed.next at h
  cases hr : feed.results with
  | nil =>
    rw [hr] at h
    cases h
    exact ⟨Token.lexed_endOfInput _, hmem, Token.lexed_endOfInput _⟩
  | cons r results =>
    rw [hr] at h
    cases r with
    | error d => cases h
    | ok t =>
      cases h
      exact ⟨hmem t (hr ▸ List.mem_cons_self),
        fun t ht => hmem t (hr ▸ List.mem_cons_of_mem _ ht), Token.lexed_endOfInput _⟩

end Parse

/-! ### Trees of source texts -/

/-- Every literal stands for a number of its type and is spelled as source texts spell it. -/
def Spelled (literals : List (String × Ty)) : Prop :=
  ∀ l ∈ literals, l.2.admits l.1 = true ∧ l.2.Spells l.1.toList

theorem spelled_append {ls ms : List (String × Ty)} :
    Spelled (ls ++ ms) ↔ Spelled ls ∧ Spelled ms :=
  List.forall_mem_append

/-- The expression has no conversions, and its literals are those of source texts. -/
def Expr.Plain (e : Expr) : Prop :=
  e.conversionTargets = [] ∧ Spelled e.literals

theorem builds_plain : Parse.Builds Token.Lexed Expr.Plain where
  integer t ht hk hadm := ⟨rfl, by simpa [Spelled, Expr.literals] using ⟨hadm, ht.1 hk⟩⟩
  decimal t ht hk hadm := ⟨rfl, by simpa [Spelled, Expr.literals] using ⟨hadm, ht.2 hk⟩⟩
  symbol t _ _ := ⟨rfl, by simp [Spelled, Expr.literals]⟩
  binary left operator right line hl hr := by
    refine ⟨?_, spelled_append.mpr ⟨hl.2, hr.2⟩⟩
    rw [Expr.conversionTargets, hl.1, hr.1, List.append_nil]

/-- **Every expression of a tree that was read is plain.** -/
theorem plain_of_parse {source : String} {file : Option String} {p : Program}
    (h : parse source file = .ok p) {s : Stmt} (hs : s ∈ p.body) {e : Expr}
    (he : e ∈ s.value?) : e.Plain := by
  unfold parse Parse.run at h
  obtain ⟨c, hc, h⟩ := Except.bind_eq_ok_iff.mp h
  cases hr : Parse.program c with
  | error d c' =>
    rw [hr] at h
    cases h
  | ok p' c' =>
    rw [hr] at h
    cases h
    exact (Parse.yields_program builds_plain c _ c' (Parse.ahead_ofSource hc) hr).1 s hs e he

theorem Expr.Plain.onlyWidens {e : Expr} (h : e.Plain) : e.OnlyWidens := by
  intro t ht
  rw [h.1] at ht
  cases ht

theorem spelled_of_parse {source : String} {file : Option String} {p : Program}
    (h : parse source file = .ok p) : Spelled p.literals := by
  intro l hl
  obtain ⟨s, hs, hl⟩ := List.mem_flatMap.mp hl
  cases hv : s.value? with
  | none =>
    rw [Stmt.literals, hv] at hl
    cases hl
  | some e =>
    rw [Stmt.literals, hv] at hl
    exact (plain_of_parse h hs hv).2 l hl

end DeskCalc
