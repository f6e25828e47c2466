import DeskCalc.Proofs.Parse.Grammar
import DeskCalc.Proofs.Token.Cut

/-!
Trees that source texts can hold. A text reads as a token if a scanner makes nothing else of it, which
is to say that its characters are a lexeme (`readsAs_iff`); a tree is readable if it has no
conversions, its names read as identifiers and its literals as numbers of their types. The trees that
the grammar derives from genuine tokens are readable (`DerivesBody.readable`).
-/

namespace DeskCalc

open Token (Kind Lexeme)

/-! ### Texts that read as one token -/

/-- The whole text is read as one token of the kind, which keeps the text. -/
def ReadsAs (kind : Kind) (text : String) : Prop :=
  tokenize text none = .ok [⟨kind, 1, some text⟩, ⟨.endOfInput, 1, none⟩]

namespace Token

theorem Lexeme.eq_toList {lexeme : List Char} {kind : Kind} {text : String}
    (h : Lexeme lexeme kind (some text)) : lexeme = text.toList := by
  cases h <;> simp

/-- Tokens of numbers and identifiers keep their texts. -/
theorem Genuine.text?_eq {t : Token} (h : t.Genuine)
    (hk : t.kind.category = .literal ∨ t.kind.category = .identifier) : t.text? = some t.text := by
  obtain ⟨kind, line, text?⟩ := t
  obtain ⟨lexeme, hl⟩ := h
  cases hl with
  | integer => rfl
  | decimal => rfl
  | identifier => rfl
  | keyword hw => simp [category_keyword hw] at hk
  | punctuation hp =>
    obtain hc | hc := category_punctuation hp <;> simp [hc] at hk

end Token

/-- A text alone is cut into the token of its lexeme. -/
theorem Cut.ofLexeme {n : Nat} {kind : Kind} {text : String}
    (h : Lexeme text.toList kind (some text)) : Cut n text.toList [⟨kind, n, some text⟩] n := by
  have hcut : Cut n (text.toList ++ []) [⟨kind, n, some text⟩] n :=
    .token h (Token.Kind.ends_nil kind) .nil
  rwa [List.append_nil] at hcut

/-- **A text reads as a token if its characters are a lexeme.** -/
theorem readsAs_iff {kind : Kind} {text : String} :
    ReadsAs kind text ↔ Lexeme text.toList kind (some text) := by
  constructor
  · intro h
    have htokens : tokenize text none =
        .ok ([⟨kind, 1, some text⟩] ++ [⟨.endOfInput, 1, none⟩]) := h
    obtain ⟨lexeme, hl⟩ := genuine_of_tokenize htokens _ List.mem_cons_self
    have hchars : lexeme = text.toList := hl.eq_toList
    exact hchars ▸ hl
  · intro h
    exact tokenize_of_cut (Cut.ofLexeme h) none

theorem Token.Genuine.readsAs {t : Token} {kind : Kind} (h : t.Genuine) (ht : t.kind = kind)
    (hk : kind.category = .literal ∨ kind.category = .identifier) : ReadsAs kind t.text := by
  subst ht
  have htext := h.text?_eq hk
  obtain ⟨lexeme, hl⟩ := h
  rw [htext] at hl
  have hchars : lexeme = t.text.toList := hl.eq_toList
  exact readsAs_iff.mpr (hchars ▸ hl)

/-! ### Readable trees -/

def Ty.literalKind : Ty → Kind
  | .int => .integer
  | .float => .decimal

/-- The expression has no conversions, its names read as identifiers and its literals as numbers of
their types. -/
def Expr.Readable : Expr → Prop
  | number text ty _ => ReadsAs ty.literalKind text
  | symbol name _ => ReadsAs .identifier name
  | binary left _ right _ => left.Readable ∧ right.Readable
  | convert .. => False

/-- The name of the statement reads as an identifier, and its expression is readable. -/
def Stmt.Readable (s : Stmt) : Prop :=
  ReadsAs .identifier s.target.name ∧ ∀ e ∈ s.value?, e.Readable

def Program.Readable (p : Program) : Prop := ∀ s ∈ p.body, s.Readable

namespace Grammar

/-! ### What is derived from genuine tokens -/

theorem readable_foldl_onto {links : List Link} {e : Expr} (he : e.Readable)
    (h : ∀ link ∈ links, link.operand.Readable) : (links.foldl Link.onto e).Readable := by
  induction links generalizing e with
  | nil => exact he
  | cons link links ih =>
    obtain ⟨hlink, hlinks⟩ := List.forall_mem_cons.mp h
    have honto : (link.onto e).Readable := ⟨he, hlink⟩
    exact ih honto hlinks

theorem DerivesExpr.readable {phrase : Phrase} {ts : List Token} {e : Expr}
    (h : DerivesExpr phrase ts e) (hts : ∀ t ∈ ts, t.Genuine) : e.Readable := by
  induction h with
  | @integer t hk => exact (hts t List.mem_cons_self).readsAs hk (by decide)
  | @decimal t hk => exact (hts t List.mem_cons_self).readsAs hk (by decide)
  | @symbol t hk => exact (hts t List.mem_cons_self).readsAs hk (by decide)
  | group _ _ _ ih =>
    refine ih fun t ht => hts t ?_
    simp [ht]
  | @chain level ts e links _ _ _ ih ihs =>
    obtain ⟨hfirst, hlinks⟩ := List.forall_mem_append.mp hts
    refine readable_foldl_onto (ih hfirst) fun link hl => ihs link hl fun t ht => hlinks t ?_
    exact List.mem_flatMap.mpr ⟨link, hl, List.mem_cons_of_mem _ ht⟩

theorem DerivesInitial.readable {ts : List Token} {value : Option Expr}
    (h : DerivesInitial ts value) (hts : ∀ t ∈ ts, t.Genuine) : ∀ e ∈ value, e.Readable := by
  cases h with
  | nothing => simp
  | value _ he =>
    rintro e ⟨⟩
    exact he.readable fun t ht => hts t (List.mem_cons_of_mem _ ht)

theorem DerivesStmt.readable {ts : List Token} {s : Stmt} (h : DerivesStmt ts s)
    (hts : ∀ t ∈ ts, t.Genuine) : s.Readable := by
  cases h with
  | declaration _ hn hi _ =>
    refine ⟨(hts _ (by simp)).readsAs hn (by decide), ?_⟩
    exact hi.readable fun t ht => hts t (by simp [ht])
  | print _ hn _ => exact ⟨(hts _ (by simp)).readsAs hn (by decide), by simp [Stmt.value?]⟩
  | assignment hn _ he _ =>
    refine ⟨(hts _ (by simp)).readsAs hn (by decide), ?_⟩
    rintro e ⟨⟩
    exact he.readable fun t ht => hts t (by simp [ht])

/-- **Statements that are derived from genuine tokens are readable.** -/
theorem DerivesBody.readable {ts : List Token} {body : List Stmt} (h : DerivesBody ts body)
    (hts : ∀ t ∈ ts, t.Genuine) : ∀ s ∈ body, s.Readable := by
  induction h with
  | nil => simp
  | cons hs _ ih =>
    obtain ⟨hfirst, hrest⟩ := List.forall_mem_append.mp hts
    exact List.forall_mem_cons.mpr ⟨hs.readable hfirst, ih hrest⟩

end Grammar

end DeskCalc
