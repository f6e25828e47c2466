import DeskCalc.Proofs.Machine.Meaning
import DeskCalc.Proofs.Tree.Reparse
import DeskCalc.Proofs.Typing.Relabel

/-!
The text of a tree tells the tree, conversions included. No parser is there to read conversions, but a
scanner cuts the text into tokens whatever it means (`Expr.cut_written`), and the tokens of an expression
tell where it ends: a conversion and an operation both begin with a parenthesis, and the token behind it
keeps them apart (`Expr.tokens_append_inj`). Main statement: trees with the same text are the same up to
lines (`written_tells_tree`).
-/

namespace DeskCalc

open Token (Kind)
open Grammar (keyword)

/-! ### Trees whose words can be read -/

/-- The names read as identifiers, and the literals as numbers of their types. -/
structure Legible (names : List String) (literals : List (String × Ty)) : Prop where
  names : ∀ name ∈ names, ReadsAs .identifier name
  literals : ∀ literal ∈ literals, ReadsAs literal.2.literalKind literal.1

theorem legible_append {names names' : List String} {literals literals' : List (String × Ty)} :
    Legible (names ++ names') (literals ++ literals') ↔
      Legible names literals ∧ Legible names' literals' := by
  constructor
  · rintro ⟨hn, hl⟩
    obtain ⟨hn, hn'⟩ := List.forall_mem_append.mp hn
    obtain ⟨hl, hl'⟩ := List.forall_mem_append.mp hl
    exact ⟨⟨hn, hl⟩, hn', hl'⟩
  · rintro ⟨⟨hn, hl⟩, hn', hl'⟩
    exact ⟨List.forall_mem_append.mpr ⟨hn, hn'⟩, List.forall_mem_append.mpr ⟨hl, hl'⟩⟩

/-- All names of the program read as identifiers and all its literals as numbers of their types, whatever
conversions it has. -/
def Program.Legible (p : Program) : Prop := DeskCalc.Legible p.names p.literals

theorem Expr.Readable.legible {e : Expr} (h : e.Readable) : Legible e.names e.literals := by
  induction e with
  | number text ty line => exact ⟨by simp [names], List.forall_mem_singleton.mpr h⟩
  | symbol name line => exact ⟨List.forall_mem_singleton.mpr h, by simp [literals]⟩
  | binary left operator right line ihl ihr => exact legible_append.mpr ⟨ihl h.1, ihr h.2⟩
  | convert => exact h.elim

theorem Stmt.Readable.legible {s : Stmt} (h : s.Readable) : Legible s.names s.literals := by
  obtain ⟨hname, hvalue⟩ := h
  unfold Stmt.names Stmt.literals
  cases hv : s.value? with
  | none => exact ⟨List.forall_mem_singleton.mpr hname, by simp⟩
  | some e =>
    obtain ⟨hnames, hliterals⟩ := (hvalue e hv).legible
    exact ⟨List.forall_mem_cons.mpr ⟨hname, hnames⟩, hliterals⟩

theorem Program.Readable.legible {p : Program} (h : p.Readable) : p.Legible := by
  constructor
  · intro name hn
    obtain ⟨s, hs, hn⟩ := List.mem_flatMap.mp hn
    exact (h s hs).legible.names name hn
  · intro literal hl
    obtain ⟨s, hs, hl⟩ := List.mem_flatMap.mp hl
    exact (h s hs).legible.literals literal hl

/-- The tree of a source text that passes the check is legible: a check adds conversions only. -/
theorem legible_of_checkSource {source : String} {file : Option String} {q : Program}
    (h : checkSource source file = .ok q) : q.Legible := by
  obtain ⟨p, hp, hq⟩ := Except.bind_eq_ok_iff.mp h
  obtain ⟨⟨⟩, hv, rfl⟩ := Except.map_eq_ok_iff.mp hq
  obtain ⟨scopes, ha⟩ := Program.accepted_of_verdict hv
  have hliterals : (p.check file).tree.literals = p.literals := ha.literals
  obtain ⟨hn, hl⟩ := (readable_of_parse hp).legible
  exact ⟨by rwa [Program.names_check], by rwa [hliterals]⟩

/-! ### The tokens of a tree -/

def Operator.kind : Operator → Kind
  | add => .plus
  | sub => .dash
  | mul => .star
  | div => .slash

theorem Operator.kind_inj {operator operator' : Operator} (h : operator.kind = operator'.kind) :
    operator = operator' := by
  cases operator <;> cases operator' <;> simp_all [kind]

theorem Operator.exists_sign (operator : Operator) :
    ∃ c, operator.sign.toList = [c] ∧ Kind.punctuation? c = some operator.kind := by
  cases operator with
  | add => exact ⟨'+', rfl, rfl⟩
  | sub => exact ⟨'-', rfl, rfl⟩
  | mul => exact ⟨'*', rfl, rfl⟩
  | div => exact ⟨'/', rfl, rfl⟩

def Expr.tokens (n : Nat) : Expr → List Token
  | number text ty _ => [⟨ty.literalKind, n, some text⟩]
  | symbol name _ => [⟨.identifier, n, some name⟩]
  | binary left operator right _ =>
    ⟨.openParen, n, none⟩ :: (left.tokens n ++ ⟨operator.kind, n, none⟩ ::
      (right.tokens n ++ [⟨.closeParen, n, none⟩]))
  | convert inner target _ =>
    ⟨.openParen, n, none⟩ :: ⟨keyword target, n, none⟩ :: ⟨.closeParen, n, none⟩ :: inner.tokens n

def Stmt.tokens (n : Nat) : Stmt → List Token
  | declaration target ty none _ =>
    [⟨keyword ty, n, none⟩, ⟨.identifier, n, some target.name⟩, ⟨.semicolon, n, none⟩]
  | declaration target ty (some value) _ =>
    ⟨keyword ty, n, none⟩ :: ⟨.identifier, n, some target.name⟩ :: ⟨.assign, n, none⟩ ::
      (value.tokens n ++ [⟨.semicolon, n, none⟩])
  | assignment target value _ =>
    ⟨.identifier, n, some target.name⟩ :: ⟨.assign, n, none⟩ ::
      (value.tokens n ++ [⟨.semicolon, n, none⟩])
  | print target _ =>
    [⟨.print, n, none⟩, ⟨.identifier, n, some target.name⟩, ⟨.semicolon, n, none⟩]

/-- The tokens of statements, each on a line of its own from the line `n` on. -/
def Stmt.tokensFrom (n : Nat) : List Stmt → List Token
  | [] => []
  | s :: body => s.tokens n ++ tokensFrom (n + 1) body

/-- **The text of an expression is cut into its tokens.** -/
theorem Expr.cut_written {e : Expr} (h : Legible e.names e.literals) (n : Nat) :
    Cut n e.written.toList (e.tokens n) n := by
  induction e with
  | number text ty line =>
    exact Cut.ofLexeme (readsAs_iff.mp (h.literals (text, ty) List.mem_cons_self))
  | symbol name line => exact Cut.ofLexeme (readsAs_iff.mp (h.names name List.mem_cons_self))
  | binary left operator right line ihl ihr =>
    obtain ⟨hl, hr⟩ := legible_append.mp h
    obtain ⟨c, hsign, hkind⟩ := operator.exists_sign
    have hright : Cut n (right.written.toList ++ [')'])
        (right.tokens n ++ [⟨.closeParen, n, none⟩]) n :=
      .append Token.parts_closeParen (ihr hr) (.sign rfl .nil)
    have htext : (binary left operator right line).written.toList =
        '(' :: (left.written.toList ++ ' ' :: c :: ' ' :: (right.written.toList ++ [')'])) := by
      simp [Expr.written, hsign]
    rw [htext]
    exact .sign rfl ((ihl hl).between hkind hright)
  | convert inner target line ih =>
    have hinner : Cut n (')' :: ' ' :: inner.written.toList)
        (⟨.closeParen, n, none⟩ :: inner.tokens n) n := .sign rfl (.blank rfl (ih h))
    have htext : (convert inner target line).written.toList =
        '(' :: (target.name.toList ++ ')' :: ' ' :: inner.written.toList) := by
      simp [Expr.written]
    rw [htext]
    exact .sign rfl (.append Token.parts_closeParen (.ofKeyword (keyword?_name target)) hinner)

/-- The text of a statement is cut into its tokens. -/
theorem Stmt.cut_written {s : Stmt} (h : Legible s.names s.literals) (n : Nat) :
    Cut n s.written.toList (s.tokens n) n := by
  have hname := Cut.ofLexeme (n := n) (readsAs_iff.mp (h.names s.target.name List.mem_cons_self))
  have hvalue : ∀ e ∈ s.value?, Cut n e.written.toList (e.tokens n) n := by
    intro e he
    refine Expr.cut_written ⟨fun name hn => h.names name ?_, fun literal hl => h.literals literal ?_⟩ n
    · rw [Stmt.names, he]
      exact List.mem_cons_of_mem _ hn
    · rw [Stmt.literals, he]
      exact hl
  cases s with
  | declaration target ty value line =>
    have hty := Cut.ofKeyword (n := n) (keyword?_name ty)
    cases value with
    | none =>
      have htext : (declaration target ty none line).written.toList =
          ty.name.toList ++ ' ' :: (target.name.toList ++ [';']) := by
        simp [Stmt.written]
      exact htext ▸ hty.space hname.semicolon
    | some e =>
      have htext : (declaration target ty (some e) line).written.toList = ty.name.toList ++ ' ' ::
          (target.name.toList ++ ' ' :: '=' :: ' ' :: (e.written.toList ++ [';'])) := by
        simp [Stmt.written]
      exact htext ▸ hty.space (hname.between rfl (hvalue e rfl).semicolon)
  | assignment target e line =>
    have htext : (assignment target e line).written.toList =
        target.name.toList ++ ' ' :: '=' :: ' ' :: (e.written.toList ++ [';']) := by
      simp [Stmt.written]
    exact htext ▸ hname.between rfl (hvalue e rfl).semicolon
  | print target line =>
    have hprint : Kind.keyword? "print".toList = some .print := by decide
    have htext : (print target line).written.toList =
        "print".toList ++ ' ' :: (target.name.toList ++ [';']) := by
      simp [Stmt.written]
    exact htext ▸ (Cut.ofKeyword hprint).space hname.semicolon

/-- The text of statements is cut into their tokens, statement by statement. -/
theorem Stmt.cut_written_all {body : List Stmt}
    (h : Legible (body.flatMap Stmt.names) (body.flatMap Stmt.literals)) (n : Nat) :
    Cut n (String.join (body.map fun s => s.written ++ "\n")).toList (tokensFrom n body)
      (n + body.length) := by
  induction body generalizing n with
  | nil => exact .nil
  | cons s body ih =>
    obtain ⟨hs, hbody⟩ := legible_append.mp h
    have hbreak : Cut n ('\n' :: (String.join (body.map fun s => s.written ++ "\n")).toList)
        (tokensFrom (n + 1) body) (n + (s :: body).length) := by
      rw [List.length_cons, Nat.add_comm body.length 1, ← Nat.add_assoc]
      exact .blank rfl (ih hbody (n + 1))
    rw [List.map_cons, String.join_cons]
    simp only [String.toList_append, List.append_assoc]
    exact .append (Token.parts_of_isSpace rfl) (Stmt.cut_written hs n) hbreak

/-- Programs with the same text have the same tokens. -/
theorem Program.Legible.tokens_eq {p q : Program} (hp : p.Legible) (hq : q.Legible)
    (h : p.written = q.written) : Stmt.tokensFrom 1 p.body = Stmt.tokensFrom 1 q.body := by
  have hcut : ∀ {r : Program}, r.Legible → r.written = p.written → tokenize p.written none =
      .ok (Stmt.tokensFrom 1 r.body ++ [⟨.endOfInput, 1 + r.body.length, none⟩]) := by
    intro r hr htext
    exact htext ▸ tokenize_of_cut (Stmt.cut_written_all hr 1) none
  have htokens := (hcut hp rfl).symm.trans (hcut hq h.symm)
  exact (List.append_inj' (Except.ok.inj htokens) rfl).1

/-! ### Trees from their tokens -/

theorem keyword_inj {ty ty' : Ty} (h : keyword ty = keyword ty') : ty = ty' := by
  cases ty <;> cases ty' <;> simp_all [keyword]

theorem literalKind_inj {ty ty' : Ty} (h : ty.literalKind = ty'.literalKind) : ty = ty' := by
  cases ty <;> cases ty' <;> simp_all [Ty.literalKind]

/-- An expression begins with a literal, a name or a parenthesis. -/
theorem Expr.exists_tokens (e : Expr) (n : Nat) : ∃ kind text? rest,
    e.tokens n = ⟨kind, n, text?⟩ :: rest ∧ (kind.category = .literal ∨ kind.category = .identifier ∨
      kind = .openParen) := by
  cases e with
  | number text ty line => cases ty <;> exact ⟨_, _, _, rfl, .inl rfl⟩
  | symbol name line => exact ⟨_, _, _, rfl, .inr (.inl rfl)⟩
  | binary left operator right line => exact ⟨_, _, _, rfl, .inr (.inr rfl)⟩
  | convert inner target line => exact ⟨_, _, _, rfl, .inr (.inr rfl)⟩

/-- An operation is not taken for a conversion: no expression begins with the keyword of a type. -/
theorem Expr.tokens_ne_keyword {e : Expr} {n : Nat} {ty : Ty} {rest us : List Token}
    (h : e.tokens n ++ us = ⟨keyword ty, n, none⟩ :: rest) : False := by
  obtain ⟨kind, text?, more, htokens, hkind⟩ := e.exists_tokens n
  rw [htokens, List.cons_append] at h
  obtain ⟨⟨rfl, -⟩, -⟩ := List.cons.inj h
  cases ty <;> rcases hkind with hk | hk | hk <;> cases hk

/-- **The tokens of an expression tell the expression, and where it ends.** -/
theorem Expr.tokens_append_inj {e e' : Expr} {n : Nat} {us us' : List Token}
    (h : e.tokens n ++ us = e'.tokens n ++ us') : e.atLine n = e'.atLine n ∧ us = us' := by
  induction e generalizing e' us us' with
  | number text ty line =>
    cases e' with
    | number text' ty' line' =>
      obtain ⟨hfirst, hrest⟩ := List.cons.inj h
      obtain ⟨hkind, -, htext⟩ := Token.mk.inj hfirst
      obtain rfl := literalKind_inj hkind
      obtain rfl := Option.some.inj htext
      exact ⟨rfl, hrest⟩
    | _ => cases ty <;> simp [tokens, Ty.literalKind] at h
  | symbol name line =>
    cases e' with
    | number text' ty' line' => cases ty' <;> simp [tokens, Ty.literalKind] at h
    | symbol name' line' =>
      obtain ⟨hfirst, hrest⟩ := List.cons.inj h
      obtain ⟨-, -, htext⟩ := Token.mk.inj hfirst
      obtain rfl := Option.some.inj htext
      exact ⟨rfl, hrest⟩
    | _ => simp [tokens] at h
  | binary left operator right line ihl ihr =>
    cases e' with
    | number text' ty' line' => cases ty' <;> simp [tokens, Ty.literalKind] at h
    | symbol => simp [tokens] at h
    | binary left' operator' right' line' =>
      simp only [tokens, List.cons_append, List.append_assoc, List.cons.injEq, true_and] at h
      obtain ⟨hleft, hbehind⟩ := ihl h
      obtain ⟨hsign, hoperand⟩ := List.cons.inj hbehind
      obtain rfl := Operator.kind_inj (Token.mk.inj hsign).1
      obtain ⟨hright, hclose⟩ := ihr hoperand
      exact ⟨by rw [atLine, atLine, hleft, hright], (List.cons.inj hclose).2⟩
    | convert inner target line' =>
      simp only [tokens, List.cons_append, List.append_assoc, List.cons.injEq, true_and] at h
      exact (tokens_ne_keyword h).elim
  | convert inner target line ih =>
    cases e' with
    | number text' ty' line' => cases ty' <;> simp [tokens, Ty.literalKind] at h
    | symbol => simp [tokens] at h
    | binary left' operator' right' line' =>
      simp only [tokens, List.cons_append, List.append_assoc, List.cons.injEq, true_and] at h
      exact (tokens_ne_keyword h.symm).elim
    | convert inner' target' line' =>
      simp only [tokens, List.cons_append, List.cons.injEq, true_and] at h
      obtain ⟨hty, hrest⟩ := h
      obtain rfl := keyword_inj (Token.mk.inj hty).1
      obtain ⟨hinner, hrest⟩ := ih hrest
      exact ⟨by rw [atLine, atLine, hinner], hrest⟩

/-- The tokens of a value with the semicolon behind it tell the value. -/
theorem Expr.tokens_semicolon_inj {e e' : Expr} {n : Nat} {us us' : List Token} {t t' : Token}
    (h : e.tokens n ++ [t] ++ us = e'.tokens n ++ [t'] ++ us') :
    e.atLine n = e'.atLine n ∧ us = us' := by
  rw [List.append_assoc, List.append_assoc] at h
  obtain ⟨he, hrest⟩ := tokens_append_inj h
  exact ⟨he, (List.cons.inj hrest).2⟩

/-- The tokens of a statement tell the statement, and where it ends. -/
theorem Stmt.tokens_append_inj {s s' : Stmt} {n : Nat} {us us' : List Token}
    (h : s.tokens n ++ us = s'.tokens n ++ us') : s.atLine n = s'.atLine n ∧ us = us' := by
  cases s with
  | declaration target ty value line =>
    cases s' with
    | declaration target' ty' value' line' =>
      cases value <;> cases value' <;>
        simp only [tokens, List.cons_append, List.cons.injEq, Token.mk.injEq, true_and, and_true,
          Option.some.injEq, reduceCtorEq, false_and, and_false, List.nil_append] at h
      · obtain ⟨hty, hname, rfl⟩ := h
        obtain rfl := keyword_inj hty
        exact ⟨by rw [atLine, atLine, hname], rfl⟩
      · obtain ⟨hty, hname, hvalue⟩ := h
        obtain rfl := keyword_inj hty
        obtain ⟨he, rfl⟩ := Expr.tokens_semicolon_inj hvalue
        exact ⟨by rw [atLine, atLine, hname, Option.map_some, Option.map_some, he], rfl⟩
    | assignment => cases ty <;> cases value <;> simp [tokens, keyword] at h
    | print => cases ty <;> cases value <;> simp [tokens, keyword] at h
  | assignment target value line =>
    cases s' with
    | declaration target' ty' value' line' =>
      cases ty' <;> cases value' <;> simp [tokens, keyword] at h
    | assignment target' value' line' =>
      simp only [tokens, List.cons_append, List.cons.injEq, Token.mk.injEq, true_and,
        Option.some.injEq] at h
      obtain ⟨hname, hvalue⟩ := h
      obtain ⟨he, rfl⟩ := Expr.tokens_semicolon_inj hvalue
      exact ⟨by rw [atLine, atLine, hname, he], rfl⟩
    | print => simp [tokens] at h
  | print target line =>
    cases s' with
    | declaration target' ty' value' line' =>
      cases ty' <;> cases value' <;> simp [tokens, keyword] at h
    | assignment => simp [tokens] at h
    | print target' line' =>
      simp only [tokens, List.cons_append, List.cons.injEq, Token.mk.injEq, true_and,
        Option.some.injEq, List.nil_append] at h
      obtain ⟨hname, rfl⟩ := h
      exact ⟨by rw [atLine, atLine, hname], rfl⟩

theorem Stmt.tokens_ne_nil (s : Stmt) (n : Nat) : s.tokens n ≠ [] := by
  cases s with
  | declaration target ty value line => cases value <;> exact List.cons_ne_nil _ _
  | assignment => exact List.cons_ne_nil _ _
  | print => exact List.cons_ne_nil _ _

/-- The tokens of statements tell all of them. -/
theorem Stmt.tokensFrom_inj {body body' : List Stmt} {n : Nat}
    (h : tokensFrom n body = tokensFrom n body') : numbered n body = numbered n body' := by
  induction body generalizing body' n with
  | nil =>
    cases body' with
    | nil => rfl
    | cons s' body' => exact absurd (List.append_eq_nil_iff.mp h.symm).1 (s'.tokens_ne_nil n)
  | cons s body ih =>
    cases body' with
    | nil => exact absurd (List.append_eq_nil_iff.mp h).1 (s.tokens_ne_nil n)
    | cons s' body' =>
      obtain ⟨hs, hrest⟩ := tokens_append_inj h
      rw [numbered, numbered, hs, ih hrest]

/-! ### Trees from their text -/

theorem Program.Legible.relined_eq {p q : Program} (hp : p.Legible) (hq : q.Legible)
    (h : p.written = q.written) : p.relined = q.relined := by
  rw [relined, relined, Stmt.tokensFrom_inj (hp.tokens_eq hq h)]

/-- **The text of a tree tells the tree.** Two programs whose names read as identifiers and whose literals
read as numbers of their types, with conversions to any type anywhere, have the same text if and only if
they are the same up to lines. So the text of a tree that passed the check tells which expression each
conversion in it is around. -/
theorem written_tells_tree :
    (∀ p q : Program, p.Legible → q.Legible → (p.written = q.written ↔ p.relined = q.relined)) ∧
    ∀ (source source' : String) (file file' : Option String) (p q : Program),
      checkSource source file = .ok p → checkSource source' file' = .ok q →
        (p.written = q.written ↔ p.relined = q.relined) := by
  have htells : ∀ p q : Program, p.Legible → q.Legible →
      (p.written = q.written ↔ p.relined = q.relined) := by
    intro p q hp hq
    refine ⟨hp.relined_eq hq, fun h => ?_⟩
    rw [← p.written_relined, h, q.written_relined]
  refine ⟨htells, fun source source' file file' p q hp hq => ?_⟩
  exact htells p q (legible_of_checkSource hp) (legible_of_checkSource hq)

/-- A sum that is widened, and the left operand of a sum that is widened. The names begin with the keywords
of types. -/
def widenings : Program × Program :=
  let declared (e : Expr) : Program := ⟨[.declaration ⟨"floats", 1⟩ .float (some e) 1], 1⟩
  (declared (.convert (.binary (.symbol "ints" 1) .add (.number "1" .int 1) 1) .float 1),
    declared (.binary (.convert (.symbol "ints" 1) .float 1) .add (.number "1" .int 1) 1))

/-- The two conversions are told apart by their texts; two source texts that are checked to the same tree
on other lines have it written in the same way. -/
theorem written_tells_tree_widened :
    widenings.1.Legible ∧ widenings.2.Legible ∧ widenings.1.written ≠ widenings.2.written ∧
    ∃ p q, checkSource "int ints; float floats = ints + 1;" none = .ok p ∧
      checkSource "int ints;\n\nfloat floats =\n(ints + 1);" none = .ok q ∧ p ≠ q ∧
      p.written = q.written := by
  have hints : ReadsAs .identifier "ints" := Except.eq_ok_of_toOption (by decide +kernel)
  have hfloats : ReadsAs .identifier "floats" := Except.eq_ok_of_toOption (by decide +kernel)
  have hone : ReadsAs .integer "1" := Except.eq_ok_of_toOption (by decide +kernel)
  have hsum : widenings.1.Legible := by
    constructor <;> simp [widenings, Program.names, Program.literals, Stmt.names, Stmt.literals,
      Stmt.target, Stmt.value?, Expr.names, Expr.literals, Ty.literalKind, hints, hfloats, hone]
  have hoperand : widenings.2.Legible := by
    constructor <;> simp [widenings, Program.names, Program.literals, Stmt.names, Stmt.literals,
      Stmt.target, Stmt.value?, Expr.names, Expr.literals, Ty.literalKind, hints, hfloats, hone]
  have happart : widenings.1.relined ≠ widenings.2.relined := by decide
  obtain ⟨⟨p, q⟩, hpq, hlines⟩ := Except.exists_of_any
    (x := do
      let p ← checkSource "int ints; float floats = ints + 1;" none
      let q ← checkSource "int ints;\n\nfloat floats =\n(ints + 1);" none
      return (p, q))
    (p := fun r => decide (r.1 ≠ r.2 ∧ r.1.relined = r.2.relined)) (by decide +kernel)
  obtain ⟨p, hp, hq⟩ := Except.bind_eq_ok_iff.mp hpq
  obtain ⟨q, hq, hsame⟩ := Except.bind_eq_ok_iff.mp hq
  cases hsame
  obtain ⟨hne, hrelined⟩ := of_decide_eq_true hlines
  refine ⟨hsum, hoperand, fun h => happart ((written_tells_tree.1 _ _ hsum hoperand).mp h), p, q, hp, hq,
    hne, ?_⟩
  exact (written_tells_tree.2 _ _ none none p q hp hq).mpr hrelined

end DeskCalc
