import DeskCalc.Proofs.Parse.Rules

/-!
What the grammar derives, the parser accepts. On tokens of a phrase, with a token behind them that
cannot go on with the phrase, the rule for the phrase gives the tree of the derivation
(`DerivesExpr.answers`); the same holds of statements whatever stands behind them, and of all
statements of a program before the end of input. With what the rules read this is the main
statement: a source text is accepted with a tree exactly when the grammar derives the tree from its
tokens, and no other tree is derived from them (`parse_accepts_grammar`).
-/

namespace DeskCalc

open Token (Kind)

namespace Grammar

/-! ### Phrases that have ended -/

/-- The rule of the parser for a phrase. -/
def Phrase.rule : Phrase → Parse Expr
  | .chain .sum => Parse.expr
  | .chain .product => Parse.term
  | .factor => Parse.atom

/-- A phrase does not go on with a token of the kind: the token is no sign of the levels that the
phrase spans. -/
def Phrase.Free : Phrase → Kind → Prop
  | .chain .sum, kind => ∀ level : Level, level.operator? kind = none
  | .chain .product, kind => Level.product.operator? kind = none
  | .factor, _ => True

theorem rule_operand (level : Level) : (Phrase.operand level).rule = Parse.operandOf level := by
  cases level <;> rfl

theorem Phrase.Free.sign {level : Level} {kind : Kind} (h : (Phrase.chain level).Free kind) :
    level.operator? kind = none := by
  cases level with
  | sum => exact h .sum
  | product => exact h

theorem Phrase.Free.operand {level : Level} {kind : Kind} (h : (Phrase.chain level).Free kind) :
    (Phrase.operand level).Free kind := by
  cases level with
  | sum => exact h .product
  | product => trivial

/-- An operand ends before a sign of the level. -/
theorem Sign.free {level : Level} {kind : Kind} {operator : Operator}
    (h : Sign level kind operator) : (Phrase.operand level).Free kind := by
  cases h <;> first | rfl | trivial

theorem free_semicolon : Phrase.expr.Free .semicolon := by
  intro level
  cases level <;> rfl

theorem free_closeParen : Phrase.expr.Free .closeParen := by
  intro level
  cases level <;> rfl

end Grammar

namespace Parse

open Grammar

variable {ts us : List Token} {t u : Token}

/-! ### Expressions -/

/-- An operand ends before the links behind it, or before what stands behind the chain. -/
theorem free_links {level : Level} {links : List Link}
    (hs : ∀ link ∈ links, Sign level link.sign.kind link.operator)
    (ht : (Phrase.chain level).Free t.kind) :
    (Phrase.operand level).Free ((links.flatMap Link.written).headD t).kind := by
  cases links with
  | nil => exact ht.operand
  | cons link links => exact (hs link List.mem_cons_self).free

/-- A rule that builds something from one token gives what it builds from a genuine one. -/
theorem answers_leaf {α : Type} {kind : Kind} {value : Token → α}
    {build : Token → Except Diagnostic α}
    (h : ∀ t : Token, t.Genuine → t.kind = kind → build t = .ok (value t)) (hu : u.kind = kind) :
    Answers (do let t ← expect kind; ofExcept (build t)) [u] t (pure (value u)) := by
  intro c c' hc hp ht
  have hcu : c.current = u := hp.current_eq
  have hgenuine : u.Genuine := by
    obtain ⟨f, hf⟩ := hc
    have hne : c.current.kind ≠ .endOfInput := by cases hp with | cons hne _ _ => exact hne
    exact hcu ▸ hf.genuine_current hne
  have hbuild : Answers (ofExcept (build u)) [] t (pure (value u)) := by
    rw [h u hgenuine hu]
    exact answers_self
  exact (answers_expect hu).bind hbuild c c' hc hp ht

/-- **What follows the first operand of a chain** is read link by link. -/
theorem answers_links {level : Level} {links : List Link} {left : Expr}
    (hs : ∀ link ∈ links, Sign level link.sign.kind link.operator)
    (ho : ∀ link ∈ links, ∀ t : Token, (Phrase.operand level).Free t.kind →
      Answers (operandOf level) link.tokens t (pure link.operand))
    (ht : (Phrase.chain level).Free t.kind) :
    Answers (chainTail level left) (links.flatMap Link.written) t
      (pure (links.foldl Link.onto left)) := by
  induction links generalizing left with
  | nil =>
    refine answers_self.of_eq fun c _ hc => chainTail_of_none left ?_
    exact (congrArg (level.operator? ·.kind) hc).trans ht.sign
  | cons link links ih =>
    obtain ⟨hsign, hs⟩ := List.forall_mem_cons.mp hs
    obtain ⟨hoperand, ho⟩ := List.forall_mem_cons.mp ho
    have hbehind := (hoperand _ (free_links hs ht)).bind (f := fun right =>
      chainTail level (.binary left link.operator right link.sign.line)) (ih hs ho)
    have hlink : Answers (Parse.link level left link.sign.kind link.operator)
        ([link.sign] ++ (link.tokens ++ links.flatMap Link.written)) t
        (pure ((link :: links).foldl Link.onto left)) :=
      (answers_expect rfl).bind hbehind
    exact hlink.of_eq fun c _ hc => chainTail_of_sign left hsign (congrArg Token.kind hc)

end Parse

namespace Grammar

open Parse

theorem answers_chain {level : Level} {ts us : List Token} {left e : Expr} {t : Token}
    (hl : Answers (operandOf level) ts (us.headD t) (pure left))
    (h : Answers (chainTail level left) us t (pure e)) :
    Answers (Phrase.chain level).rule (ts ++ us) t (pure e) := by
  cases level with
  | sum =>
    show Answers expr _ _ _
    rw [expr_eq]
    exact hl.bind h
  | product =>
    show Answers term _ _ _
    rw [term_eq]
    exact hl.bind h

/-- **The tokens of a phrase are read as its tree**, if what stands behind them does not go on. -/
theorem DerivesExpr.answers {phrase : Phrase} {ts : List Token} {e : Expr}
    (h : DerivesExpr phrase ts e) {t : Token} (ht : phrase.Free t.kind) :
    Answers phrase.rule ts t (pure e) := by
  induction h generalizing t with
  | integer hu =>
    refine (answers_leaf built_integer hu).of_eq fun c _ hc => atom_of_integer ?_
    exact (congrArg Token.kind hc).trans hu
  | decimal hu =>
    refine (answers_leaf built_decimal hu).of_eq fun c _ hc => atom_of_decimal ?_
    exact (congrArg Token.kind hc).trans hu
  | symbol hu =>
    refine (answers_leaf built_symbol hu).of_eq fun c _ hc => atom_of_identifier ?_
    exact (congrArg Token.kind hc).trans hu
  | @group opening closing ts e ho hc _ ih =>
    have hfree : Phrase.expr.Free closing.kind := hc ▸ free_closeParen
    have hclose : Answers (do let _ ← expect .closeParen; return e) [closing] t (pure e) :=
      (answers_expect hc).map
    have hinner := (ih hfree).bind (f := fun e => do let _ ← expect .closeParen; return e) hclose
    have hgroup : Answers parenthesised ([opening] ++ (ts ++ [closing])) t (pure e) :=
      (answers_expect ho).bind hinner
    refine hgroup.of_eq fun c _ hc => atom_of_openParen ?_
    exact (congrArg Token.kind hc).trans ho
  | @chain level ts e links _ hs _ ih ihs =>
    rw [rule_operand] at ih ihs
    have hlinks : Answers (chainTail level e) (links.flatMap Link.written) t
        (pure (links.foldl Link.onto e)) :=
      answers_links hs (fun link hl t ht => ihs link hl ht) ht
    exact answers_chain (ih (free_links hs ht)) hlinks

/-! ### Statements -/

theorem answers_typeName {ty : Ty} {first t : Token} (h : first.kind = keyword ty) :
    Answers typeName [first] t (pure ty) := by
  have hkeyword : Answers (typeKeyword ty) [first] t (pure ty) :=
    (answers_expect h).map
  exact hkeyword.of_eq fun c _ hc => typeName_of_keyword ty ((congrArg Token.kind hc).trans h)

theorem answers_identifier {name t : Token} (h : name.kind = .identifier) :
    Answers identifier [name] t (pure (named name)) :=
  answers_leaf built_identifier h

theorem DerivesInitial.answers {ts : List Token} {value : Option Expr}
    (h : DerivesInitial ts value) {t : Token} (ht : t.kind = .semicolon) :
    Answers initialValue ts t (pure value) := by
  cases h with
  | nothing =>
    refine answers_self.of_eq fun c _ hc => initialValue_of_ne ?_
    have hk : c.current.kind = t.kind := congrArg Token.kind hc
    rw [hk, ht]
    decide
  | @value sign ts e hs he =>
    have hexpr : Answers expr ts t (pure e) := he.answers (ht ▸ free_semicolon)
    have hassigned : Answers assignedValue ([sign] ++ ts) t (pure (some e)) :=
      (answers_expect hs).bind hexpr.map
    refine hassigned.of_eq fun c _ hc => initialValue_of_assign ?_
    exact (congrArg Token.kind hc).trans hs

theorem answers_semicolon {last t : Token} (h : last.kind = .semicolon) (s : Stmt) :
    Answers (do let _ ← expect .semicolon; return s) [last] t (pure s) :=
  (answers_expect h).map

/-- **The tokens of a statement are read as the statement**, whatever stands behind them. -/
theorem DerivesStmt.answers {ts : List Token} {s : Stmt} (h : DerivesStmt ts s) (t : Token) :
    Answers statement ts t (pure s) := by
  cases h with
  | @declaration ty first name last ts value hf hn hi hl =>
    have hvalue : Answers initialValue ts last (pure value) := hi.answers hl
    have hdeclaration : Answers Parse.declaration ([first] ++ ([name] ++ (ts ++ [last]))) t
        (pure (.declaration (named name) ty value name.line)) :=
      (answers_typeName hf).bind ((answers_identifier hn).bind
        (Answers.bind hvalue (answers_semicolon hl _)))
    refine hdeclaration.of_eq fun c hc he => statement_of_keyword hc ty ?_
    exact (congrArg Token.kind he).trans hf
  | @print first name last hf hn hl =>
    have hprint : Answers Parse.print ([first] ++ ([name] ++ [last])) t
        (pure (.print (named name) name.line)) :=
      (answers_expect hf).bind ((answers_identifier hn).bind (answers_semicolon hl _))
    refine hprint.of_eq fun c hc he => statement_of_print hc ?_
    exact (congrArg Token.kind he).trans hf
  | @assignment name sign last ts e hn hs he hl =>
    have hexpr : Answers expr ts last (pure e) := he.answers (hl ▸ free_semicolon)
    have hassignment : Answers Parse.assignment ([name] ++ ([sign] ++ (ts ++ [last]))) t
        (pure (.assignment (named name) e name.line)) :=
      (answers_identifier hn).bind ((answers_expect hs).bind
        (Answers.bind hexpr (answers_semicolon hl _)))
    refine hassignment.of_eq fun c hc he => statement_of_identifier hc ?_
    exact (congrArg Token.kind he).trans hn

/-- A statement begins with a token that is not the end of input. -/
theorem DerivesStmt.head {ts : List Token} {s : Stmt} (h : DerivesStmt ts s) :
    ∃ first rest, ts = first :: rest ∧ first.kind ≠ .endOfInput := by
  cases h with
  | @declaration ty first _ _ _ _ hf =>
    have hne : keyword ty ≠ .endOfInput := by cases ty <;> decide
    exact ⟨first, _, rfl, hf ▸ hne⟩
  | @print first _ _ hf => exact ⟨first, _, rfl, by rw [hf]; decide⟩
  | @assignment name _ _ _ _ hn => exact ⟨name, _, rfl, by rw [hn]; decide⟩

/-- **The tokens of statements are read as the first statements**, whatever stands behind them. -/
theorem DerivesBody.answers_before {ts : List Token} {body : List Stmt} (h : DerivesBody ts body)
    (t : Token) :
    Answers statements ts t (do let more ← statements; return body ++ more) := by
  induction h with
  | nil =>
    refine answers_self.of_eq fun c _ _ => ?_
    exact congrFun (bind_pure (m := Parse) statements).symm c
  | @cons ts us s body hs _ ih =>
    have hrest : Answers (do let body ← statements; return s :: body) us t
        (do let more ← statements; return (s :: body) ++ more) := ih.cons
    have hboth := (hs.answers (us.headD t)).bind (f := fun s => do
      let body ← statements
      return s :: body) hrest
    refine hboth.of_eq fun c _ hc => ?_
    obtain ⟨first, rest, rfl, hfirst⟩ := hs.head
    have hcf : c.current = first := hc
    rw [statements_eq, if_neg (hcf ▸ hfirst)]

/-- **The tokens of statements before the end of input are read as the statements.** -/
theorem DerivesBody.answers {ts : List Token} {body : List Stmt} (h : DerivesBody ts body)
    {t : Token} (ht : t.kind = .endOfInput) : Answers statements ts t (pure body) := by
  intro c c' hc hp hcurrent
  have hend : statements c' = .ok [] c' := by
    rw [statements_eq, if_pos ((congrArg Token.kind hcurrent).trans ht)]
  rw [h.answers_before t c c' hc hp hcurrent]
  show EStateM.bind statements _ c' = .ok body c'
  unfold EStateM.bind
  rw [hend]
  exact congrArg (EStateM.Result.ok · c') (List.append_nil body)

end Grammar

/-! ### Whole source texts -/

namespace Parse

open Grammar

theorem statements_stops {c c' : Cursor} {body : List Stmt} (h : statements c = .ok body c') :
    c'.current.kind = .endOfInput := by
  fun_induction statements c generalizing body with
  | case1 c hk =>
    cases h
    exact hk
  | case2 c hk d c' => cases h
  | case3 c hk s c' _ _ d c'' hr ih => cases h
  | case4 c hk s c' _ _ body c'' hr ih =>
    cases h
    exact ih hr

theorem reads_statements {c : Cursor} (hc : c.Proper) : Reads DerivesBody statements c :=
  (readsBelow_statements (c.weight + 1)).reads c hc (Nat.lt_succ_self _)

theorem derivesBody_of_statements {c c' : Cursor} {body : List Stmt} (hc : c.Proper)
    (h : statements c = .ok body c') : ∃ ts, Passes c ts c' ∧ DerivesBody ts body := by
  cases reads_statements hc with
  | read hp hb ha =>
    have hok := ha c _ hc hp rfl
    rw [h] at hok
    cases hok
    exact ⟨_, hp, hb⟩
  | refused hp _ _ ha =>
    have herror := ha c _ hc hp rfl
    rw [h] at herror
    cases herror
  | broken _ _ _ _ herror =>
    rw [h] at herror
    cases herror

/-- The end of input can be expected without any failure. -/
theorem expect_endOfInput {c : Cursor} (hc : c.Proper) (h : c.current.kind = .endOfInput) :
    ∃ c', expect .endOfInput c = .ok c.current c' := by
  obtain ⟨f, hf⟩ := hc
  obtain ⟨hr, -, hfeed⟩ := hf.results_end h
  refine ⟨{ c with passed := c.current :: c.passed, current := f.last, feed := f }, ?_⟩
  unfold expect advance Feed.next
  rw [if_pos h, hfeed, hr]

/-- A program is what was read of statements, from the line of the first token. -/
theorem parse_of_ofSource {source : String} {file : Option String} {c : Cursor}
    (hc : Cursor.ofSource source file = .ok c) : parse source file =
      match statements c with
      | .ok body _ => .ok ⟨body, c.current.line⟩
      | .error d _ => .error d := by
  have hproper : c.Proper := ⟨_, Cursor.on_ofSource hc⟩
  have hrun : parse source file = match program c with
      | .ok p _ => .ok p
      | .error d _ => .error d := by
    unfold parse run
    rw [hc]
    simp only [bind, Except.bind]
    cases program c <;> rfl
  rw [hrun]
  have hprogram : program c = EStateM.bind statements (fun body => do
      let _ ← expect .endOfInput
      return ⟨body, c.current.line⟩) c := rfl
  rw [hprogram]
  unfold EStateM.bind
  cases hs : statements c with
  | error d c' => rfl
  | ok body c' =>
    obtain ⟨ts, hp, -⟩ := derivesBody_of_statements hproper hs
    obtain ⟨c'', hend⟩ := expect_endOfInput (hp.proper hproper) (statements_stops hs)
    show (match EStateM.bind (expect .endOfInput) _ c' with
      | .ok p _ => .ok p
      | .error d _ => .error d : Except Diagnostic Program) = _
    unfold EStateM.bind
    rw [hend]
    rfl

/-- Of a text that is accepted, statements are read and nothing else. -/
theorem statements_of_parse {source : String} {file : Option String} {p : Program}
    (h : parse source file = .ok p) :
    ∃ c c', Cursor.ofSource source file = .ok c ∧ statements c = .ok p.body c' ∧
      p.line = c.current.line := by
  cases hc : Cursor.ofSource source file with
  | error d =>
    unfold parse run at h
    rw [hc] at h
    cases h
  | ok c =>
    rw [parse_of_ofSource hc] at h
    cases hs : statements c with
    | error d c' =>
      rw [hs] at h
      cases h
    | ok body c' =>
      rw [hs] at h
      cases h
      exact ⟨c, c', rfl, hs, rfl⟩

/-- **An accepted source text has a tree that the grammar derives** from its tokens. -/
theorem derives_of_parse {source : String} {file : Option String} {p : Program}
    (h : parse source file = .ok p) :
    ∃ tokens, tokenize source file = .ok tokens ∧ DerivesProgram tokens p := by
  obtain ⟨c, c', hc, hs, hpline⟩ := statements_of_parse h
  have hon := Cursor.on_ofSource hc
  obtain ⟨ts, hp, hbody⟩ := derivesBody_of_statements ⟨_, hon⟩ hs
  have hend := statements_stops hs
  obtain ⟨f', hon', hresults, hline⟩ := hp.results hon
  obtain ⟨hnil, hlast, -⟩ := hon'.results_end hend
  rw [hnil, List.append_nil] at hresults
  have hcurrent : c'.current = (Scanner.ofSource source file).feed.last := by
    rw [hlast, Feed.last, Feed.last, hline]
  refine ⟨ts ++ [c'.current], ?_, ts, c'.current, rfl, hend, hbody, c.current, ?_, hpline⟩
  · exact Feed.tokens_eq_ok_iff.mpr ⟨ts, hresults, hcurrent ▸ rfl⟩
  · rw [hp.current_eq]
    cases ts <;> simp

/-- **A tree that the grammar derives is what the parser gives.** -/
theorem parse_of_derives {source : String} {file : Option String} {tokens : List Token}
    {p : Program} (ht : tokenize source file = .ok tokens) (h : DerivesProgram tokens p) :
    parse source file = .ok p := by
  obtain ⟨ts, last, rfl, hlast, hbody, first, hfirst, hline⟩ := h
  obtain ⟨ts', hresults, htokens⟩ := Feed.tokens_eq_ok_iff.mp ht
  obtain ⟨rfl, hends⟩ := List.append_inj' htokens rfl
  obtain rfl := List.singleton_inj.mp hends
  have hnil : (Scanner.ofSource source file).feed.results = ts.map .ok ++ [] := by
    rw [hresults, List.append_nil]
  obtain ⟨next, rest, hnext⟩ := Feed.exists_next hnil (by simp)
  have hc : Cursor.ofSource source file =
      .ok ⟨[], next, rest, file.getD defaultFile, .standard⟩ := by
    unfold Cursor.ofSource
    rw [hnext]
    rfl
  have hon := Cursor.on_ofSource hc
  obtain ⟨c', hp, hcurrent⟩ := Passes.to_end hon hresults
  have hstatements := hbody.answers hlast _ c' ⟨_, hon⟩ hp hcurrent
  rw [parse_of_ofSource hc, hstatements]
  have hcfirst : next = first := by
    have hhead : next = ts.headD c'.current := hp.current_eq
    rw [hhead, hcurrent]
    cases ts with
    | nil => exact Option.some.inj hfirst
    | cons t ts => exact Option.some.inj hfirst
  show Except.ok (Program.mk p.body next.line) = .ok p
  rw [hcfirst, ← hline]

end Parse

/-- **The parser accepts exactly its grammar and builds its unique tree.** A source text is read as a
tree if and only if it has tokens from which the grammar derives the tree; then no other tree is
derived from them, and there is no conversion in it. -/
theorem parse_accepts_grammar (source : String) (file : Option String) (p : Program) :
    (parse source file = .ok p ↔
      ∃ tokens, tokenize source file = .ok tokens ∧ Grammar.DerivesProgram tokens p) ∧
    ∀ tokens, tokenize source file = .ok tokens → Grammar.DerivesProgram tokens p →
      p.conversions = 0 ∧ ∀ q, Grammar.DerivesProgram tokens q → q = p := by
  refine ⟨⟨Parse.derives_of_parse, ?_⟩, ?_⟩
  · rintro ⟨tokens, ht, hp⟩
    exact Parse.parse_of_derives ht hp
  · intro tokens ht hp
    refine ⟨hp.conversions, fun q hq => ?_⟩
    have hparsed : parse source file = .ok p := Parse.parse_of_derives ht hp
    have hagain : parse source file = .ok q := Parse.parse_of_derives ht hq
    rw [hparsed] at hagain
    exact (Except.ok.inj hagain).symm

/-- `int x = (1 - 2) - ((x + 3) * 4);` with the value on lines of its own. -/
def groupedProgram : Program :=
  ⟨[.declaration ⟨"x", 1⟩ .int (some (.binary
      (.binary (.number "1" .int 2) .sub (.number "2" .int 2) 2) .sub
      (.binary (.binary (.symbol "x" 3) .add (.number "3" .int 3) 3) .mul (.number "4" .int 3) 3)
      2)) 1], 1⟩

open Grammar in
/-- Differences are grouped to the left, and products before them. -/
theorem parse_accepts_grammar_grouped :
    ∃ tokens, tokenize "int x =\n1 - 2 -\n(x + 3) * 4;" none = .ok tokens ∧
      DerivesProgram tokens groupedProgram ∧ groupedProgram.conversions = 0 ∧
      ∀ q, DerivesProgram tokens q → q = groupedProgram := by
  have hparse : parse "int x =\n1 - 2 -\n(x + 3) * 4;" none = .ok groupedProgram :=
    Except.eq_ok_of_toOption (by decide +kernel)
  obtain ⟨hiff, hunique⟩ := parse_accepts_grammar _ none groupedProgram
  obtain ⟨tokens, ht, hp⟩ := hiff.mp hparse
  exact ⟨tokens, ht, hp, hunique tokens ht hp⟩

end DeskCalc
