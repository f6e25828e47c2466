import DeskCalc.Parse.Expr
import DeskCalc.Proofs.Tree.Contents

/-!
The grammar of the calculator language as derivations of trees from tokens. An expression is a chain
of terms and a term a chain of factors; a chain is a first operand and any number of links, each an
operator with the operand behind it, and its tree groups the links to the left. A node has the text
of its token and the line of its token, which is the sign for an operation and the name for a
statement. Nothing here mentions how a parser goes about it.
-/

namespace DeskCalc

open Token (Kind)

namespace Grammar

/-! ### Expressions -/

/-- The signs of the operations on each level. -/
inductive Sign : Level → Kind → Operator → Prop
  | plus : Sign .sum .plus .add
  | minus : Sign .sum .dash .sub
  | times : Sign .product .star .mul
  | over : Sign .product .slash .div

/-- A link of a chain: an operator, told by its sign, and the operand behind it with its tokens. -/
structure Link where
  sign : Token
  operator : Operator
  tokens : List Token
  operand : Expr

def Link.written (link : Link) : List Token :=
  link.sign :: link.tokens

/-- What stands to the left of a link becomes the left operand of its operator. -/
def Link.onto (left : Expr) (link : Link) : Expr :=
  .binary left link.operator link.operand link.sign.line

/-- The phrases that expressions consist of. -/
inductive Phrase where
  | chain (level : Level)
  | factor
  deriving Repr, DecidableEq

/-- The phrase between the operators of a level: sums have products, and products have factors. -/
def Phrase.operand : Level → Phrase
  | .sum => .chain .product
  | .product => .factor

/-- The whole expression. -/
abbrev Phrase.expr : Phrase := .chain .sum

/-- The tokens are those of the phrase, and its tree is the expression. -/
inductive DerivesExpr : Phrase → List Token → Expr → Prop
  | integer {t : Token} : t.kind = .integer → DerivesExpr .factor [t] (.number t.text .int t.line)
  | decimal {t : Token} : t.kind = .decimal → DerivesExpr .factor [t] (.number t.text .float t.line)
  | symbol {t : Token} : t.kind = .identifier → DerivesExpr .factor [t] (.symbol t.text t.line)
  | group {opening closing : Token} {ts e} :
      opening.kind = .openParen → closing.kind = .closeParen → DerivesExpr .expr ts e →
      DerivesExpr .factor (opening :: ts ++ [closing]) e
  | chain {level ts e} {links : List Link} :
      DerivesExpr (.operand level) ts e →
      (∀ link ∈ links, Sign level link.sign.kind link.operator) →
      (∀ link ∈ links, DerivesExpr (.operand level) link.tokens link.operand) →
      DerivesExpr (.chain level) (ts ++ links.flatMap Link.written) (links.foldl Link.onto e)

/-! ### Statements and programs -/

def keyword : Ty → Kind
  | .int => .intType
  | .float => .floatType

/-- The name that a token gives a statement. -/
def named (t : Token) : Identifier :=
  ⟨t.text, t.line⟩

/-- The tokens are those of the first value in a declaration, which may be left out. -/
inductive DerivesInitial : List Token → Option Expr → Prop
  | nothing : DerivesInitial [] none
  | value {sign : Token} {ts e} :
      sign.kind = .assign → DerivesExpr .expr ts e → DerivesInitial (sign :: ts) (some e)

/-- The tokens are those of a statement, and its tree is the statement. -/
inductive DerivesStmt : List Token → Stmt → Prop
  | declaration {ty} {first name last : Token} {ts value} :
      first.kind = keyword ty → name.kind = .identifier → DerivesInitial ts value →
      last.kind = .semicolon →
      DerivesStmt (first :: name :: ts ++ [last]) (.declaration (named name) ty value name.line)
  | print {first name last : Token} :
      first.kind = .print → name.kind = .identifier → last.kind = .semicolon →
      DerivesStmt [first, name, last] (.print (named name) name.line)
  | assignment {name sign last : Token} {ts e} :
      name.kind = .identifier → sign.kind = .assign → DerivesExpr .expr ts e →
      last.kind = .semicolon →
      DerivesStmt (name :: sign :: ts ++ [last]) (.assignment (named name) e name.line)

/-- The tokens are those of the statements, one after the other. -/
inductive DerivesBody : List Token → List Stmt → Prop
  | nil : DerivesBody [] []
  | cons {ts us s body} :
      DerivesStmt ts s → DerivesBody us body → DerivesBody (ts ++ us) (s :: body)

/-- The tokens are those of the program with the end of input behind them. A program has the line of
the first of them, which is the end of input if there is no statement. -/
def DerivesProgram (tokens : List Token) (p : Program) : Prop :=
  ∃ body last, tokens = body ++ [last] ∧ last.kind = .endOfInput ∧ DerivesBody body p.body ∧
    ∃ first ∈ tokens.head?, p.line = first.line

/-! ### Chains and their links -/

theorem sign_iff {level : Level} {kind : Kind} {operator : Operator} :
    Sign level kind operator ↔ level.operator? kind = some operator := by
  constructor
  · intro h
    cases h <;> rfl
  · intro h
    cases level <;> cases kind <;> cases h <;> constructor

/-- Any number of links behind what stands to the left of them. -/
def Links (level : Level) (left : Expr) (ts : List Token) (e : Expr) : Prop :=
  ∃ links : List Link, (∀ link ∈ links, Sign level link.sign.kind link.operator) ∧
    (∀ link ∈ links, DerivesExpr (.operand level) link.tokens link.operand) ∧
    ts = links.flatMap Link.written ∧ e = links.foldl Link.onto left

theorem links_nil (level : Level) (left : Expr) : Links level left [] left :=
  ⟨[], by simp, by simp, rfl, rfl⟩

theorem Links.cons {level : Level} {left right e : Expr} {sign : Token} {operator : Operator}
    {us vs : List Token} (hs : Sign level sign.kind operator)
    (hr : DerivesExpr (.operand level) us right)
    (h : Links level (.binary left operator right sign.line) vs e) :
    Links level left (sign :: (us ++ vs)) e := by
  obtain ⟨links, hsigns, hoperands, rfl, rfl⟩ := h
  refine ⟨⟨sign, operator, us, right⟩ :: links, ?_, ?_, rfl, rfl⟩
  · exact List.forall_mem_cons.mpr ⟨hs, hsigns⟩
  · exact List.forall_mem_cons.mpr ⟨hr, hoperands⟩

theorem Links.chain {level : Level} {left e : Expr} {ts us : List Token}
    (hl : DerivesExpr (.operand level) ts left) (h : Links level left us e) :
    DerivesExpr (.chain level) (ts ++ us) e := by
  obtain ⟨links, hsigns, hoperands, rfl, rfl⟩ := h
  exact .chain hl hsigns hoperands

/-- An operand alone is a chain. -/
theorem DerivesExpr.single {level : Level} {ts : List Token} {e : Expr}
    (h : DerivesExpr (.operand level) ts e) : DerivesExpr (.chain level) ts e := by
  have hchain : DerivesExpr (.chain level) (ts ++ [].flatMap Link.written) ([].foldl Link.onto e) :=
    .chain h (by simp) (by simp)
  simpa using hchain

/-- A factor alone is any phrase. -/
theorem DerivesExpr.ofFactor {ts : List Token} {e : Expr} (h : DerivesExpr .factor ts e)
    (phrase : Phrase) : DerivesExpr phrase ts e := by
  have hterm : DerivesExpr (.chain .product) ts e := single h
  cases phrase with
  | chain level =>
    cases level with
    | sum => exact single hterm
    | product => exact hterm
  | factor => exact h

/-! ### Kinds decide what is derived -/

theorem eq_singleton_of_kinds {us : List Token} {t : Token}
    (h : us.map Token.kind = [t].map Token.kind) : ∃ u, us = [u] ∧ u.kind = t.kind := by
  obtain ⟨u, rest, rfl, hu, hrest⟩ := List.map_eq_cons_iff.mp h
  obtain rfl := List.map_eq_nil_iff.mp hrest
  exact ⟨u, rfl, hu⟩

theorem links_of_kinds {level : Level} {links : List Link}
    (hs : ∀ link ∈ links, Sign level link.sign.kind link.operator)
    (ho : ∀ link ∈ links, ∀ us : List Token, us.map Token.kind = link.tokens.map Token.kind →
      ∃ e, DerivesExpr (.operand level) us e) (left : Expr) (us : List Token)
    (h : us.map Token.kind = (links.flatMap Link.written).map Token.kind) :
    ∃ e, Links level left us e := by
  induction links generalizing left us with
  | nil =>
    obtain rfl := List.map_eq_nil_iff.mp h
    exact ⟨left, links_nil level left⟩
  | cons link links ih =>
    obtain ⟨hsign, hs⟩ := List.forall_mem_cons.mp hs
    obtain ⟨hoperand, ho⟩ := List.forall_mem_cons.mp ho
    rw [List.flatMap_cons, Link.written, List.cons_append, List.map_cons, List.map_append] at h
    obtain ⟨sign, rest, rfl, hkind, h⟩ := List.map_eq_cons_iff.mp h
    obtain ⟨vs, ws, rfl, hvs, hws⟩ := List.map_eq_append_iff.mp h
    obtain ⟨right, hright⟩ := hoperand vs hvs
    obtain ⟨e, he⟩ := ih hs ho (.binary left link.operator right sign.line) ws hws
    exact ⟨e, he.cons (hkind ▸ hsign) hright⟩

/-- Tokens of the same kinds are those of a phrase if the others are. -/
theorem DerivesExpr.of_kinds {phrase : Phrase} {ts : List Token} {e : Expr}
    (h : DerivesExpr phrase ts e) (us : List Token)
    (hus : us.map Token.kind = ts.map Token.kind) : ∃ e', DerivesExpr phrase us e' := by
  induction h generalizing us with
  | integer ht =>
    obtain ⟨u, rfl, hu⟩ := eq_singleton_of_kinds hus
    exact ⟨_, .integer (hu.trans ht)⟩
  | decimal ht =>
    obtain ⟨u, rfl, hu⟩ := eq_singleton_of_kinds hus
    exact ⟨_, .decimal (hu.trans ht)⟩
  | symbol ht =>
    obtain ⟨u, rfl, hu⟩ := eq_singleton_of_kinds hus
    exact ⟨_, .symbol (hu.trans ht)⟩
  | group ho hc _ ih =>
    rw [List.map_append, List.map_cons, List.cons_append] at hus
    obtain ⟨opening, _, rfl, hopening, hus⟩ := List.map_eq_cons_iff.mp hus
    obtain ⟨vs, _, rfl, hvs, hus⟩ := List.map_eq_append_iff.mp hus
    obtain ⟨closing, rfl, hclosing⟩ := eq_singleton_of_kinds hus
    obtain ⟨e, he⟩ := ih vs hvs
    exact ⟨e, .group (hopening.trans ho) (hclosing.trans hc) he⟩
  | chain _ hs _ ih ihs =>
    rw [List.map_append] at hus
    obtain ⟨vs, ws, rfl, hvs, hws⟩ := List.map_eq_append_iff.mp hus
    obtain ⟨left, hleft⟩ := ih vs hvs
    obtain ⟨e, he⟩ := links_of_kinds hs ihs left ws hws
    exact ⟨e, he.chain hleft⟩

theorem DerivesInitial.of_kinds {ts : List Token} {value : Option Expr}
    (h : DerivesInitial ts value) (us : List Token)
    (hus : us.map Token.kind = ts.map Token.kind) : ∃ value', DerivesInitial us value' := by
  cases h with
  | nothing =>
    obtain rfl := List.map_eq_nil_iff.mp hus
    exact ⟨none, .nothing⟩
  | value hs he =>
    obtain ⟨sign, vs, rfl, hsign, hvs⟩ := List.map_eq_cons_iff.mp hus
    obtain ⟨e, he⟩ := he.of_kinds vs hvs
    exact ⟨some e, .value (hsign.trans hs) he⟩

theorem DerivesStmt.of_kinds {ts : List Token} {s : Stmt} (h : DerivesStmt ts s)
    (us : List Token) (hus : us.map Token.kind = ts.map Token.kind) :
    ∃ s', DerivesStmt us s' := by
  cases h with
  | declaration hf hn hi hl =>
    rw [List.map_append, List.map_cons, List.map_cons, List.cons_append, List.cons_append] at hus
    obtain ⟨first, _, rfl, hfirst, hus⟩ := List.map_eq_cons_iff.mp hus
    obtain ⟨name, _, rfl, hname, hus⟩ := List.map_eq_cons_iff.mp hus
    obtain ⟨vs, _, rfl, hvs, hus⟩ := List.map_eq_append_iff.mp hus
    obtain ⟨last, rfl, hlast⟩ := eq_singleton_of_kinds hus
    obtain ⟨value, hi⟩ := hi.of_kinds vs hvs
    exact ⟨_, .declaration (hfirst.trans hf) (hname.trans hn) hi (hlast.trans hl)⟩
  | print hf hn hl =>
    obtain ⟨first, _, rfl, hfirst, hus⟩ := List.map_eq_cons_iff.mp hus
    obtain ⟨name, _, rfl, hname, hus⟩ := List.map_eq_cons_iff.mp hus
    obtain ⟨last, rfl, hlast⟩ := eq_singleton_of_kinds hus
    exact ⟨_, .print (hfirst.trans hf) (hname.trans hn) (hlast.trans hl)⟩
  | assignment hn hs he hl =>
    rw [List.map_append, List.map_cons, List.map_cons, List.cons_append, List.cons_append] at hus
    obtain ⟨name, _, rfl, hname, hus⟩ := List.map_eq_cons_iff.mp hus
    obtain ⟨sign, _, rfl, hsign, hus⟩ := List.map_eq_cons_iff.mp hus
    obtain ⟨vs, _, rfl, hvs, hus⟩ := List.map_eq_append_iff.mp hus
    obtain ⟨last, rfl, hlast⟩ := eq_singleton_of_kinds hus
    obtain ⟨e, he⟩ := he.of_kinds vs hvs
    exact ⟨_, .assignment (hname.trans hn) (hsign.trans hs) he (hlast.trans hl)⟩

/-- **Tokens of the same kinds are those of statements if the others are.** -/
theorem DerivesBody.of_kinds {ts : List Token} {body : List Stmt} (h : DerivesBody ts body)
    (us : List Token) (hus : us.map Token.kind = ts.map Token.kind) :
    ∃ body', DerivesBody us body' := by
  induction h generalizing us with
  | nil =>
    obtain rfl := List.map_eq_nil_iff.mp hus
    exact ⟨[], .nil⟩
  | cons hs _ ih =>
    rw [List.map_append] at hus
    obtain ⟨vs, ws, rfl, hvs, hws⟩ := List.map_eq_append_iff.mp hus
    obtain ⟨s, hs⟩ := hs.of_kinds vs hvs
    obtain ⟨rest, hrest⟩ := ih ws hws
    exact ⟨s :: rest, .cons hs hrest⟩

/-! ### What derivations build -/

theorem conversions_foldl_onto (links : List Link) (e : Expr) (he : e.conversions = 0)
    (h : ∀ link ∈ links, link.operand.conversions = 0) :
    (links.foldl Link.onto e).conversions = 0 := by
  induction links generalizing e with
  | nil => exact he
  | cons link links ih =>
    obtain ⟨hlink, hlinks⟩ := List.forall_mem_cons.mp h
    refine ih (link.onto e) ?_ hlinks
    rw [Link.onto, Expr.conversions, he, hlink]

theorem DerivesExpr.conversions {phrase : Phrase} {ts : List Token} {e : Expr}
    (h : DerivesExpr phrase ts e) : e.conversions = 0 := by
  induction h with
  | integer => rfl
  | decimal => rfl
  | symbol => rfl
  | group _ _ _ ih => exact ih
  | chain _ _ _ ih ihs => exact conversions_foldl_onto _ _ ih ihs

theorem DerivesStmt.conversions {ts : List Token} {s : Stmt} (h : DerivesStmt ts s) :
    s.conversions = 0 := by
  cases h with
  | declaration _ _ hi _ =>
    cases hi with
    | nothing => rfl
    | value _ he => exact he.conversions
  | print => rfl
  | assignment _ _ he => exact he.conversions

theorem DerivesBody.conversions {ts : List Token} {body : List Stmt} (h : DerivesBody ts body) :
    ∀ s ∈ body, s.conversions = 0 := by
  induction h with
  | nil => exact fun s hs => absurd hs List.not_mem_nil
  | cons hs _ ih => exact List.forall_mem_cons.mpr ⟨hs.conversions, ih⟩

/-- **A derived program has no conversions.** -/
theorem DerivesProgram.conversions {tokens : List Token} {p : Program}
    (h : DerivesProgram tokens p) : p.conversions = 0 := by
  obtain ⟨body, last, -, -, hbody, -⟩ := h
  exact Program.conversions_eq_zero_iff.mpr hbody.conversions

end Grammar

end DeskCalc
