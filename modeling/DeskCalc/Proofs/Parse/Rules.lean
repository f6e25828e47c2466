import DeskCalc.Proofs.Parse.Reading

/-!
The rules of the parser read the phrases of the grammar: expressions by induction on what is left to
read (`exprsRead`), the rules for statements from them, and the statements up to the end of input
(`readsBelow_statements`).
-/

namespace DeskCalc

open Token (Kind)

namespace Grammar

/-! ### Beginnings of expressions -/

/-- Nothing begins any phrase: it can be completed to a number. -/
theorem begins_phrase (phrase : Phrase) : Language.Begins (DerivesExpr phrase) [] := by
  intro line
  obtain ⟨t, hk, hline, ht⟩ := Token.exists_genuine (show Kind.integer ≠ .endOfInput by decide) line
  exact ⟨[t], _, by simpa using ⟨ht, hline⟩, (DerivesExpr.integer hk).ofFactor phrase⟩

theorem begins_links (level : Level) (left : Expr) : Language.Begins (Links level left) [] :=
  fun _ => ⟨[], left, by simp, links_nil level left⟩

end Grammar

namespace Parse

open Grammar

variable {n : Nat}

/-! ### Expressions -/

theorem ne_of_spells {ty : Ty} {text : String} (h : ty.Spells text.toList) :
    ¬(text = "" ∨ text = "-") := by
  have hdigit : ∃ c ∈ text.toList, c.isDigit = true := by
    cases ty with
    | int =>
      obtain ⟨c, cs, hcs, hc, -⟩ := Token.isDigits_cons h
      exact ⟨c, hcs ▸ List.mem_cons_self, hc⟩
    | float =>
      obtain ⟨whole, fraction, hcs, hw, -⟩ := h
      obtain ⟨c, cs, rfl, hc, -⟩ := Token.isDigits_cons hw
      exact ⟨c, by rw [hcs]; simp, hc⟩
  obtain ⟨c, hmem, hc⟩ := hdigit
  rintro (rfl | rfl)
  · cases hmem
  · obtain rfl : c = '-' := by simpa using hmem
    exact absurd hc (by decide)

theorem buildNumber_of_spells {ty : Ty} {text : String} (line : Nat)
    (h : ty.Spells text.toList) (ha : ty.admits text = true) :
    Expr.buildNumber text ty line = .ok (.number text ty line) := by
  unfold Expr.buildNumber
  rw [if_neg (ne_of_spells h), if_pos ha]

/-! What the rules for expressions are for each kind of token. -/

def parenthesised : Parse Expr := do
  let _ ← expect .openParen
  let e ← expr
  let _ ← expect .closeParen
  return e

/-- An operator of the level with its operand, and what follows them. -/
def link (level : Level) (left : Expr) (kind : Kind) (operator : Operator) : Parse Expr := do
  let token ← expect kind
  let right ← operandOf level
  chainTail level (.binary left operator right token.line)

section Branches

variable {c : Cursor}

theorem atom_of_integer (h : c.current.kind = .integer) : atom c = number .integer .int c := by
  simp only [atom_eq, h]

theorem atom_of_decimal (h : c.current.kind = .decimal) : atom c = number .decimal .float c := by
  simp only [atom_eq, h]

theorem atom_of_identifier (h : c.current.kind = .identifier) : atom c = symbol c := by
  simp only [atom_eq, h]

theorem atom_of_openParen (h : c.current.kind = .openParen) : atom c = parenthesised c := by
  simp only [atom_eq, h]
  rw [advance_bind_eq, h]
  rfl

theorem chainTail_of_none {level : Level} (left : Expr)
    (h : level.operator? c.current.kind = none) : chainTail level left c = .ok left c := by
  simp only [chainTail_eq, h]

theorem chainTail_of_sign {level : Level} {kind : Kind} {operator : Operator} (left : Expr)
    (hs : Sign level kind operator) (h : c.current.kind = kind) :
    chainTail level left c = link level left kind operator c := by
  simp only [chainTail_eq, h, sign_iff.mp hs]
  rw [advance_bind_eq, h]
  rfl

end Branches

/-! What the rules build from genuine tokens. -/

theorem built_integer (t : Token) (h : t.Genuine) (hk : t.kind = .integer) :
    Expr.buildNumber t.text .int t.line = .ok (.number t.text .int t.line) := by
  obtain ⟨hs, ha⟩ := h.integer hk
  exact buildNumber_of_spells t.line hs ha

theorem built_decimal (t : Token) (h : t.Genuine) (hk : t.kind = .decimal) :
    Expr.buildNumber t.text .float t.line = .ok (.number t.text .float t.line) := by
  obtain ⟨hs, ha⟩ := h.decimal hk
  exact buildNumber_of_spells t.line hs ha

theorem built_symbol (t : Token) (h : t.Genuine) (hk : t.kind = .identifier) :
    Expr.buildSymbol t.text t.line = .ok (.symbol t.text t.line) := by
  unfold Expr.buildSymbol
  rw [if_neg (by simpa using h.identifier hk)]

theorem built_identifier (t : Token) (h : t.Genuine) (hk : t.kind = .identifier) :
    Identifier.build t.text t.line = .ok (named t) := by
  unfold Identifier.build
  rw [if_neg (by simpa using h.identifier hk)]
  rfl

theorem readsBelow_integer : ReadsBelow n (DerivesExpr .factor) (number .integer .int) :=
  readsBelow_leaf (by decide) _ built_integer fun _ => .integer

theorem readsBelow_decimal : ReadsBelow n (DerivesExpr .factor) (number .decimal .float) :=
  readsBelow_leaf (by decide) _ built_decimal fun _ => .decimal

theorem readsBelow_symbol : ReadsBelow n (DerivesExpr .factor) symbol :=
  readsBelow_leaf (by decide) _ built_symbol fun _ => .symbol

/-- The token that closes what is already read. -/
theorem readsBelow_last {α : Type} (kind : Kind) (hne : kind ≠ .endOfInput) (a : α) :
    ReadsBelow n (fun ts b => ∃ t, ts = [t] ∧ t.kind = kind ∧ b = a)
      (do let _ ← expect kind; return a) := by
  refine (readsBelow_expect hne).map ?_
  rintro _ t ⟨rfl, hk⟩
  exact ⟨t, rfl, hk, rfl⟩

/-- All rules for expressions read their phrases where less than `n` is left to read. -/
structure ExprsRead (n : Nat) : Prop where
  expr : ReadsBelow n (DerivesExpr .expr) expr
  term : ReadsBelow n (DerivesExpr (.chain .product)) term
  atom : ReadsBelow n (DerivesExpr .factor) Parse.atom
  tail : ∀ level left, ReadsBelow n (Links level left) (chainTail level left)

theorem ExprsRead.operand (h : ExprsRead n) (level : Level) :
    ReadsBelow n (DerivesExpr (.operand level)) (operandOf level) := by
  cases level with
  | sum => exact h.term
  | product => exact h.atom

theorem readsBelow_parenthesised (h : ExprsRead n) :
    ReadsBelow (n + 1) (DerivesExpr .factor) parenthesised := by
  have hclose : ∀ e : Expr, _ := readsBelow_last (n := n) .closeParen (by decide)
  have hinner := fun _ : Token => h.expr.bind expr_shrinking.forward hclose
  refine ((readsBelow_expect (by decide)).bindShrinking (expect_shrinking (by decide))
    hinner).mono ?_
  rintro _ _ ⟨_, _, opening, rfl, ⟨rfl, ho⟩, ts, _, e, rfl, he, closing, rfl, hc, rfl⟩
  exact .group ho hc he

theorem readsBelow_atom_succ (h : ExprsRead n) :
    ReadsBelow (n + 1) (DerivesExpr .factor) Parse.atom := by
  refine ⟨begins_phrase .factor, fun c hc hw => ?_⟩
  cases hk : c.current.kind
  case integer =>
    exact (readsBelow_integer.reads c hc hw).of_eq hc fun d _ hd => atom_of_integer (hd ▸ hk)
  case decimal =>
    exact (readsBelow_decimal.reads c hc hw).of_eq hc fun d _ hd => atom_of_decimal (hd ▸ hk)
  case identifier =>
    exact (readsBelow_symbol.reads c hc hw).of_eq hc fun d _ hd => atom_of_identifier (hd ▸ hk)
  case openParen =>
    exact ((readsBelow_parenthesised h).reads c hc hw).of_eq hc fun d _ hd =>
      atom_of_openParen (hd ▸ hk)
  all_goals
    have hnone := reads_unexpected (c := c) "expected a number, variable or `(`"
      (begins_phrase .factor)
    refine hnone.of_eq hc fun d _ hd => ?_
    simp only [atom_eq, hd, hk]

theorem readsBelow_link (h : ExprsRead n) {level : Level} {kind : Kind} {operator : Operator}
    (hs : Sign level kind operator) (left : Expr) :
    ReadsBelow (n + 1) (Links level left) (link level left kind operator) := by
  have hne : kind ≠ .endOfInput := by cases hs <;> decide
  have hbehind := fun token : Token =>
    (h.operand level).bind (operand_shrinking level).forward fun right =>
      h.tail level (.binary left operator right token.line)
  refine ((readsBelow_expect hne).bindShrinking (expect_shrinking hne) hbehind).mono ?_
  rintro _ e ⟨_, _, sign, rfl, ⟨rfl, rfl⟩, us, vs, right, rfl, hr, htail⟩
  show Links level left (sign :: (us ++ vs)) e
  exact htail.cons hs hr

theorem readsBelow_tail_succ (h : ExprsRead n) (level : Level) (left : Expr) :
    ReadsBelow (n + 1) (Links level left) (chainTail level left) := by
  refine ⟨begins_links level left, fun c hc hw => ?_⟩
  cases ho : level.operator? c.current.kind with
  | none =>
    have hnothing : Reads (Links level left) (pure left) c :=
      .read .nil (links_nil level left) answers_self
    exact hnothing.of_eq hc fun d _ hd => chainTail_of_none left (hd ▸ ho)
  | some operator =>
    have hs : Sign level c.current.kind operator := sign_iff.mpr ho
    exact ((readsBelow_link h hs left).reads c hc hw).of_eq hc fun d _ hd =>
      chainTail_of_sign left hs (hd ▸ rfl)

theorem readsBelow_term_succ (h : ExprsRead n) :
    ReadsBelow (n + 1) (DerivesExpr (.chain .product)) term := by
  rw [term_eq]
  refine ((readsBelow_atom_succ h).bindShrinking atom_shrinking (h.tail .product)).mono ?_
  rintro _ _ ⟨ts, us, left, rfl, hl, htail⟩
  exact htail.chain hl

theorem readsBelow_expr_succ (h : ExprsRead n) :
    ReadsBelow (n + 1) (DerivesExpr .expr) expr := by
  rw [expr_eq]
  refine ((readsBelow_term_succ h).bindShrinking term_shrinking (h.tail .sum)).mono ?_
  rintro _ _ ⟨ts, us, left, rfl, hl, htail⟩
  exact htail.chain hl

/-- **The rules for expressions read the phrases of expressions.** -/
theorem exprsRead (n : Nat) : ExprsRead n := by
  induction n with
  | zero =>
    exact ⟨readsBelow_zero (begins_phrase _), readsBelow_zero (begins_phrase _),
      readsBelow_zero (begins_phrase _), fun level left =>
        readsBelow_zero (begins_links level left)⟩
  | succ n ih =>
    exact ⟨readsBelow_expr_succ ih, readsBelow_term_succ ih, readsBelow_atom_succ ih,
      readsBelow_tail_succ ih⟩

/-! ### The parts of statements -/

def typeKeyword (ty : Ty) : Parse Ty := do
  let _ ← expect (keyword ty)
  return ty

/-- An equals sign and the value behind it. -/
def assignedValue : Parse (Option Expr) := do
  let _ ← expect .assign
  let value ← expr
  return some value

section Branches

variable {c : Cursor}

theorem typeName_eq (c : Cursor) :
    typeName c = (match c.current.kind with
      | .intType => typeKeyword .int
      | .floatType => typeKeyword .float
      | _ => unexpected "expected `int` or `float`" : Parse Ty) c := rfl

theorem typeName_of_keyword (ty : Ty) (h : c.current.kind = keyword ty) :
    typeName c = typeKeyword ty c := by
  rw [typeName_eq, h]
  cases ty <;> rfl

theorem initialValue_eq (c : Cursor) :
    initialValue c = (if c.current.kind = .assign then assignedValue else return none :
      Parse (Option Expr)) c := rfl

theorem initialValue_of_assign (h : c.current.kind = .assign) :
    initialValue c = assignedValue c := by
  rw [initialValue_eq, if_pos h]

theorem initialValue_of_ne (h : c.current.kind ≠ .assign) : initialValue c = .ok none c := by
  rw [initialValue_eq, if_neg h]
  rfl

end Branches

theorem readsBelow_typeKeyword (ty : Ty) :
    ReadsBelow n (fun ts ty => ∃ t, ts = [t] ∧ t.kind = keyword ty) (typeKeyword ty) := by
  have hne : keyword ty ≠ .endOfInput := by cases ty <;> decide
  refine (readsBelow_expect hne).map ?_
  rintro _ t ⟨rfl, hk⟩
  exact ⟨t, rfl, hk⟩

theorem readsBelow_typeName :
    ReadsBelow n (fun ts ty => ∃ t, ts = [t] ∧ t.kind = keyword ty) typeName := by
  have hbegins := (readsBelow_typeKeyword (n := 0) .int).begins
  refine ⟨hbegins, fun c hc hw => ?_⟩
  cases hk : c.current.kind
  case intType =>
    exact ((readsBelow_typeKeyword .int).reads c hc hw).of_eq hc fun d _ hd =>
      typeName_of_keyword .int (hd ▸ hk)
  case floatType =>
    exact ((readsBelow_typeKeyword .float).reads c hc hw).of_eq hc fun d _ hd =>
      typeName_of_keyword .float (hd ▸ hk)
  all_goals
    have hnone := reads_unexpected (c := c) "expected `int` or `float`" hbegins
    refine hnone.of_eq hc fun d _ hd => ?_
    simp only [typeName_eq, hd, hk]

theorem readsBelow_identifier :
    ReadsBelow n (fun ts i => ∃ t, ts = [t] ∧ t.kind = .identifier ∧ i = named t) identifier :=
  readsBelow_leaf (by decide) named built_identifier fun t hk => ⟨t, rfl, hk, rfl⟩

theorem readsBelow_assignedValue : ReadsBelow n DerivesInitial assignedValue := by
  have hsome : ReadsBelow n (fun ts value => ∃ e, DerivesExpr .expr ts e ∧ value = some e)
      (do let value ← expr; return some value) :=
    (exprsRead n).expr.map fun ts e he => ⟨e, he, rfl⟩
  refine ((readsBelow_expect (by decide)).bind (expect_shrinking (by decide)).forward fun _ =>
    hsome).mono ?_
  rintro _ _ ⟨_, ts, sign, rfl, ⟨rfl, hs⟩, e, he, rfl⟩
  exact .value hs he

theorem readsBelow_initialValue : ReadsBelow n DerivesInitial initialValue := by
  have hbegins : Language.Begins DerivesInitial [] := fun _ => ⟨[], none, by simp, .nothing⟩
  refine ⟨hbegins, fun c hc hw => ?_⟩
  by_cases hk : c.current.kind = .assign
  · exact (readsBelow_assignedValue.reads c hc hw).of_eq hc fun d _ hd =>
      initialValue_of_assign (hd ▸ hk)
  · have hnothing : Reads DerivesInitial (pure none) c := .read .nil .nothing answers_self
    exact hnothing.of_eq hc fun d _ hd => initialValue_of_ne (hd ▸ hk)

/-! ### Statements -/

theorem readsBelow_declaration : ReadsBelow n DerivesStmt declaration := by
  refine (readsBelow_typeName.bind typeName_shrinking.forward fun ty =>
    readsBelow_identifier.bind identifier_shrinking.forward fun target =>
      readsBelow_initialValue.bind initialValue_forward fun value => readsBelow_last .semicolon
        (by decide) (Stmt.declaration target ty value target.line)).mono ?_
  rintro _ _ ⟨_, _, ty, rfl, ⟨first, rfl, hf⟩, _, _, _, rfl, ⟨name, rfl, hn, rfl⟩, ts, _, value,
    rfl, hi, last, rfl, hl, rfl⟩
  exact .declaration hf hn hi hl

theorem readsBelow_print : ReadsBelow n DerivesStmt print := by
  refine ((readsBelow_expect (by decide)).bind (expect_shrinking (by decide)).forward fun _ =>
    readsBelow_identifier.bind identifier_shrinking.forward fun target =>
      readsBelow_last .semicolon (by decide) (Stmt.print target target.line)).mono ?_
  rintro _ _ ⟨_, _, first, rfl, ⟨rfl, hf⟩, _, _, _, rfl, ⟨name, rfl, hn, rfl⟩, last, rfl, hl, rfl⟩
  exact .print hf hn hl

theorem readsBelow_assignment : ReadsBelow n DerivesStmt assignment := by
  refine (readsBelow_identifier.bind identifier_shrinking.forward fun target =>
    (readsBelow_expect (by decide)).bind (expect_shrinking (by decide)).forward fun _ =>
      (exprsRead n).expr.bind expr_shrinking.forward fun value =>
        readsBelow_last .semicolon (by decide) (Stmt.assignment target value target.line)).mono ?_
  rintro _ _ ⟨_, _, _, rfl, ⟨name, rfl, hn, rfl⟩, _, _, sign, rfl, ⟨rfl, hs⟩, ts, _, e, rfl, he,
    last, rfl, hl, rfl⟩
  exact .assignment hn hs he hl

/-- A rule that looks at the cursor goes on with it. -/
theorem get_bind_eq {α : Type} (f : Cursor → Parse α) (c : Cursor) :
    (get >>= f : Parse α) c = f c c := rfl

/-- A statement is read by the rule that the language has for its first token. -/
theorem statement_eq {c : Cursor} (hc : c.Proper) :
    statement c = ((RuleTable.standard.lookup c.current.kind).elim
      (unexpected "expected a declaration, assignment or print statement") Rule.parse) c := by
  obtain ⟨f, hf⟩ := hc
  rw [← hf.rules]
  rw [statement, get_bind_eq]
  cases c.rules.lookup c.current.kind <;> rfl

theorem statement_of_keyword {c : Cursor} (hc : c.Proper) (ty : Ty)
    (h : c.current.kind = keyword ty) : statement c = declaration c := by
  rw [statement_eq hc, h]
  cases ty <;> rfl

theorem statement_of_print {c : Cursor} (hc : c.Proper) (h : c.current.kind = .print) :
    statement c = print c := by
  rw [statement_eq hc, h]
  rfl

theorem statement_of_identifier {c : Cursor} (hc : c.Proper) (h : c.current.kind = .identifier) :
    statement c = assignment c := by
  rw [statement_eq hc, h]
  rfl

theorem readsBelow_statement : ReadsBelow n DerivesStmt statement := by
  have hbegins := (readsBelow_print (n := 0)).begins
  refine ⟨hbegins, fun c hc hw => ?_⟩
  cases hk : c.current.kind
  case intType =>
    exact (readsBelow_declaration.reads c hc hw).of_eq hc fun d hd he =>
      statement_of_keyword hd .int (he ▸ hk)
  case floatType =>
    exact (readsBelow_declaration.reads c hc hw).of_eq hc fun d hd he =>
      statement_of_keyword hd .float (he ▸ hk)
  case print =>
    exact (readsBelow_print.reads c hc hw).of_eq hc fun d hd he =>
      statement_of_print hd (he ▸ hk)
  case identifier =>
    exact (readsBelow_assignment.reads c hc hw).of_eq hc fun d hd he =>
      statement_of_identifier hd (he ▸ hk)
  all_goals
    have hnone := reads_unexpected (c := c)
      "expected a declaration, assignment or print statement" hbegins
    refine hnone.of_eq hc fun d hd he => ?_
    rw [statement_eq hd, he, hk]
    rfl

/-! ### Programs -/

theorem readsBelow_statements (n : Nat) : ReadsBelow n DerivesBody statements := by
  have hbegins : Language.Begins DerivesBody [] := fun _ => ⟨[], [], by simp, .nil⟩
  induction n with
  | zero => exact readsBelow_zero hbegins
  | succ n ih =>
    have hmore : ReadsBelow (n + 1) DerivesBody (do
        let s ← statement
        let body ← statements
        return s :: body) := by
      have hrest : ∀ s : Stmt, ReadsBelow n (fun ts body => ∃ rest, DerivesBody ts rest ∧
          body = s :: rest) (do let body ← statements; return s :: body) := by
        intro s
        exact ih.map fun ts rest hr => ⟨rest, hr, rfl⟩
      refine (readsBelow_statement.bindShrinking statement_shrinking hrest).mono ?_
      rintro _ _ ⟨ts, us, s, rfl, hs, rest, hr, rfl⟩
      exact .cons hs hr
    refine ⟨hbegins, fun c hc hw => ?_⟩
    by_cases hk : c.current.kind = .endOfInput
    · have hnothing : Reads DerivesBody (pure []) c := .read .nil .nil answers_self
      refine hnothing.of_eq hc fun d _ hd => ?_
      simp only [statements_eq, hd, hk, if_true]
      rfl
    · refine (hmore.reads c hc hw).of_eq hc fun d _ hd => ?_
      simp only [statements_eq d, hd, hk, if_false]

end Parse

end DeskCalc
