import DeskCalc.Parse.Stmt
import DeskCalc.Proofs.Outcome
import DeskCalc.Proofs.Parse.Passing
import DeskCalc.Proofs.Tree.Relabel

/-!
Reading and lines. A rule looks at the kinds of the tokens and at their texts, and a line it only hands
on to the tree or to a diagnostic. So tokens on other lines are read in the same way: to the same tree
with its lines changed as those of the tokens were, or to the same diagnostic with its line changed.
Main statement: `Parse.runOn_program_reline`.
-/

namespace DeskCalc

variable (g : Nat → Nat)

/-! ### Tokens on other lines -/

def Token.reline (t : Token) : Token :=
  ⟨t.kind, g t.line, t.text?⟩

/-- A token or a diagnostic on another line. -/
def Token.relineResult (r : Except Diagnostic Token) : Except Diagnostic Token :=
  (r.map (Token.reline g)).mapError (Diagnostic.relabel (.ofLines g))

def Feed.reline (f : Feed) : Feed :=
  ⟨f.results.map (Token.relineResult g), g f.endLine⟩

theorem Feed.next_reline (f : Feed) :
    (f.reline g).next = (Token.relineResult g f.next.1, f.next.2.reline g) := by
  obtain ⟨results, endLine⟩ := f
  cases results <;> rfl

namespace Cursor

def reline (c : Cursor) : Cursor :=
  { c with
    passed := c.passed.map (Token.reline g)
    current := c.current.reline g
    feed := c.feed.reline g }

/-- The cursor on the first token of a feed, or what is wrong before it. -/
def ofFeed (f : Feed) (file : Option String) : Except Diagnostic Cursor :=
  f.next.1.map fun current => ⟨[], current, f.next.2, file.getD defaultFile, .standard⟩

theorem ofFeed_reline (f : Feed) (file : Option String) :
    ofFeed (f.reline g) file =
      ((ofFeed f file).map (reline g)).mapError (Diagnostic.relabel (.ofLines g)) := by
  unfold ofFeed
  rw [Feed.next_reline]
  cases f.next.1 <;> rfl

theorem diagnostic_reline (c : Cursor) (cause : Cause) :
    (c.reline g).diagnostic cause = (c.diagnostic cause).relabel (.ofLines g) := by
  rw [Diagnostic.relabel, Cause.relabel_ofLines]
  rfl

end Cursor

namespace Parse

variable {α β : Type}

/-! ### Rules on other lines -/

/-- The same result on other lines, where `f` puts them into the value. -/
def relineResult (g : Nat → Nat) (f : α → α) :
    EStateM.Result Diagnostic Cursor α → EStateM.Result Diagnostic Cursor α :=
  translated f (Diagnostic.relabel (.ofLines g)) (Cursor.reline g)

/-- **Two rules that are one up to lines**, where less than `n` is left to read: on tokens on other
lines the second one gives what the first one gives, on other lines. -/
def MirrorsBelow (n : Nat) (f : α → α) (x y : Parse α) : Prop :=
  ∀ c : Cursor, c.weight < n → y (c.reline g) = relineResult g f (x c)

/-- The same however much is left to read. -/
def Mirrors (f : α → α) (x y : Parse α) : Prop :=
  ∀ c : Cursor, y (c.reline g) = relineResult g f (x c)

variable {g} {n : Nat} {f : α → α} {h : β → β} {x y : Parse α} {k l : α → Parse β}

theorem Mirrors.below (hx : Mirrors g f x y) : MirrorsBelow g n f x y :=
  fun c _ => hx c

theorem MirrorsBelow.zero : MirrorsBelow g 0 f x y :=
  fun _ hc => absurd hc (Nat.not_lt_zero _)

theorem MirrorsBelow.bind (hx : MirrorsBelow g n f x y) (hk : ∀ a, Mirrors g h (k a) (l (f a))) :
    MirrorsBelow g n h (x >>= k) (y >>= l) :=
  fun c hc => bind_translated (hx c hc) fun a c' _ => hk a c'

theorem Mirrors.bind (hx : Mirrors g f x y) (hk : ∀ a, Mirrors g h (k a) (l (f a))) :
    Mirrors g h (x >>= k) (y >>= l) :=
  fun c => bind_translated (hx c) fun a c' _ => hk a c'

/-- After a rule that reads something less is left to read. -/
theorem MirrorsBelow.bindShrinking (hs : Shrinking x) (hx : MirrorsBelow g (n + 1) f x y)
    (hk : ∀ a, MirrorsBelow g n h (k a) (l (f a))) :
    MirrorsBelow g (n + 1) h (x >>= k) (y >>= l) := by
  intro c hc
  refine bind_translated (hx c hc) fun a c' hr => hk a c' ?_
  have hw := hs c
  rw [hr] at hw
  exact Nat.lt_of_lt_of_le hw (Nat.lt_succ_iff.mp hc)

theorem Mirrors.get {k l : Cursor → Parse α} (hk : ∀ c, Mirrors g f (k c) (l (c.reline g))) :
    Mirrors g f (get >>= k) (get >>= l) :=
  fun c => hk c c

theorem mirrors_pure (a : α) : Mirrors g f (pure a) (pure (f a)) :=
  fun _ => rfl

theorem mirrors_ofExcept {r r' : Except Diagnostic α}
    (hr : r' = (r.map f).mapError (Diagnostic.relabel (.ofLines g))) :
    Mirrors g f (ofExcept r) (ofExcept r') := by
  intro c
  subst hr
  cases r <;> rfl

theorem mirrors_unexpected (message : String) :
    Mirrors g f (unexpected message) (unexpected message) := by
  intro c
  have hd := c.diagnostic_reline g (.unexpectedTokenDetailed c.current.kind message)
  exact congrArg (EStateM.Result.error · (c.reline g)) hd

theorem mirrors_advance : Mirrors g (Token.reline g) advance advance := by
  intro c
  have hnext : (c.reline g).feed.next = _ := c.feed.next_reline g
  unfold advance
  rw [hnext]
  rcases c.feed.next with ⟨r, feed⟩
  cases r <;> rfl

theorem mirrors_expect (kind : Token.Kind) : Mirrors g (Token.reline g) (expect kind) (expect kind) := by
  intro c
  have hkind : (c.reline g).current.kind = c.current.kind := rfl
  unfold expect
  rw [hkind]
  split
  · exact mirrors_advance c
  · have hd := c.diagnostic_reline g (.unexpectedToken kind c.current.kind)
    exact congrArg (EStateM.Result.error · (c.reline g)) hd

/-! ### Expressions -/

theorem buildNumber_reline (text : String) (ty : Ty) (line : Nat) :
    Expr.buildNumber text ty (g line) =
      ((Expr.buildNumber text ty line).map (Expr.relabel (.ofLines g))).mapError
        (Diagnostic.relabel (.ofLines g)) := by
  unfold Expr.buildNumber
  split
  · rfl
  · split <;> rfl

theorem buildSymbol_reline (name : String) (line : Nat) :
    Expr.buildSymbol name (g line) =
      ((Expr.buildSymbol name line).map (Expr.relabel (.ofLines g))).mapError
        (Diagnostic.relabel (.ofLines g)) := by
  unfold Expr.buildSymbol
  split <;> rfl

theorem buildIdentifier_reline (name : String) (line : Nat) :
    Identifier.build name (g line) =
      ((Identifier.build name line).map (Identifier.relabel (.ofLines g))).mapError
        (Diagnostic.relabel (.ofLines g)) := by
  unfold Identifier.build
  split <;> rfl

theorem mirrors_number (kind : Token.Kind) (ty : Ty) :
    Mirrors g (Expr.relabel (.ofLines g)) (number kind ty) (number kind ty) :=
  (mirrors_expect kind).bind fun t => mirrors_ofExcept (buildNumber_reline t.text ty t.line)

theorem mirrors_symbol : Mirrors g (Expr.relabel (.ofLines g)) symbol symbol :=
  (mirrors_expect .identifier).bind fun t => mirrors_ofExcept (buildSymbol_reline t.text t.line)

/-- The rules for expressions read in the same way on other lines, where less than `n` is left to
read. -/
structure ExprsMirror (g : Nat → Nat) (n : Nat) : Prop where
  expr : MirrorsBelow g n (Expr.relabel (.ofLines g)) expr expr
  term : MirrorsBelow g n (Expr.relabel (.ofLines g)) term term
  atom : MirrorsBelow g n (Expr.relabel (.ofLines g)) atom atom
  tail : ∀ level left, MirrorsBelow g n (Expr.relabel (.ofLines g)) (chainTail level left)
    (chainTail level (left.relabel (.ofLines g)))

theorem ExprsMirror.operand (hn : ExprsMirror g n) (level : Level) :
    MirrorsBelow g n (Expr.relabel (.ofLines g)) (operandOf level) (operandOf level) := by
  cases level with
  | sum => exact hn.term
  | product => exact hn.atom

theorem mirrors_atom_succ (hn : ExprsMirror g n) :
    MirrorsBelow g (n + 1) (Expr.relabel (.ofLines g)) Parse.atom Parse.atom := by
  intro c hc
  have hkind : (c.reline g).current.kind = c.current.kind := rfl
  rw [atom_eq, atom_eq, hkind]
  cases hk : c.current.kind <;> simp only
  case integer => exact mirrors_number .integer .int c
  case decimal => exact mirrors_number .decimal .float c
  case identifier => exact mirrors_symbol c
  case openParen =>
    rw [advance_bind_eq, advance_bind_eq, hkind, hk]
    refine MirrorsBelow.bindShrinking (expect_shrinking (by decide)) (mirrors_expect _).below
      (fun _ => ?_) c hc
    exact hn.expr.bind fun e => (mirrors_expect _).bind fun _ => mirrors_pure e
  all_goals exact mirrors_unexpected _ c

theorem mirrors_tail_succ (hn : ExprsMirror g n) (level : Level) (left : Expr) :
    MirrorsBelow g (n + 1) (Expr.relabel (.ofLines g)) (chainTail level left)
      (chainTail level (left.relabel (.ofLines g))) := by
  intro c hc
  have hkind : (c.reline g).current.kind = c.current.kind := rfl
  rw [chainTail_eq, chainTail_eq, hkind]
  cases ho : level.operator? c.current.kind with
  | none => rfl
  | some operator =>
    have hne : c.current.kind ≠ .endOfInput := by
      intro hk
      rw [hk, Level.operator?_endOfInput] at ho
      cases ho
    simp only
    rw [advance_bind_eq, advance_bind_eq, hkind]
    refine MirrorsBelow.bindShrinking (expect_shrinking hne) (mirrors_expect _).below
      (fun token => ?_) c hc
    -- the operand and what follows it have less left to read
    cases n with
    | zero => exact .zero
    | succ n =>
      refine MirrorsBelow.bindShrinking (operand_shrinking level) (hn.operand level) fun right => ?_
      intro c' hc'
      exact hn.tail level (.binary left operator right token.line) c' (Nat.lt_succ_of_lt hc')

theorem mirrors_term_succ (hn : ExprsMirror g n) :
    MirrorsBelow g (n + 1) (Expr.relabel (.ofLines g)) term term := by
  rw [term_eq]
  exact MirrorsBelow.bindShrinking atom_shrinking (mirrors_atom_succ hn) (hn.tail .product)

theorem mirrors_expr_succ (hn : ExprsMirror g n) :
    MirrorsBelow g (n + 1) (Expr.relabel (.ofLines g)) expr expr := by
  rw [expr_eq]
  exact MirrorsBelow.bindShrinking term_shrinking (mirrors_term_succ hn) (hn.tail .sum)

theorem exprsMirror (n : Nat) : ExprsMirror g n := by
  induction n with
  | zero => exact ⟨.zero, .zero, .zero, fun _ _ => .zero⟩
  | succ n ih =>
    exact ⟨mirrors_expr_succ ih, mirrors_term_succ ih, mirrors_atom_succ ih, mirrors_tail_succ ih⟩

/-- **An expression is read in the same way on other lines.** -/
theorem mirrors_expr : Mirrors g (Expr.relabel (.ofLines g)) expr expr :=
  fun c => (exprsMirror (c.weight + 1)).expr c (Nat.lt_succ_self _)

/-! ### Statements -/

theorem mirrors_identifier : Mirrors g (Identifier.relabel (.ofLines g)) identifier identifier :=
  (mirrors_expect .identifier).bind fun t => mirrors_ofExcept (buildIdentifier_reline t.text t.line)

theorem mirrors_typeName : Mirrors g id typeName typeName := by
  refine Mirrors.get fun c => ?_
  have hkind : (c.reline g).current.kind = c.current.kind := rfl
  simp only [hkind]
  split
  · exact (mirrors_expect _).bind fun _ => mirrors_pure _
  · exact (mirrors_expect _).bind fun _ => mirrors_pure _
  · exact mirrors_unexpected _

theorem mirrors_initialValue :
    Mirrors g (Option.map (Expr.relabel (.ofLines g))) initialValue initialValue := by
  refine Mirrors.get fun c => ?_
  have hkind : (c.reline g).current.kind = c.current.kind := rfl
  simp only [hkind]
  split
  · exact (mirrors_expect _).bind fun _ => mirrors_expr.bind fun e => mirrors_pure (some e)
  · exact mirrors_pure none

theorem mirrors_declaration : Mirrors g (Stmt.relabel (.ofLines g)) declaration declaration :=
  mirrors_typeName.bind fun ty => mirrors_identifier.bind fun target =>
    mirrors_initialValue.bind fun value => (mirrors_expect _).bind fun _ =>
      mirrors_pure (Stmt.declaration target ty value target.line)

theorem mirrors_print : Mirrors g (Stmt.relabel (.ofLines g)) print print :=
  (mirrors_expect _).bind fun _ => mirrors_identifier.bind fun target =>
    (mirrors_expect _).bind fun _ => mirrors_pure (Stmt.print target target.line)

theorem mirrors_assignment : Mirrors g (Stmt.relabel (.ofLines g)) assignment assignment :=
  mirrors_identifier.bind fun target => (mirrors_expect _).bind fun _ =>
    mirrors_expr.bind fun e => (mirrors_expect _).bind fun _ =>
      mirrors_pure (Stmt.assignment target e target.line)

/-- **A statement is read in the same way on other lines.** -/
theorem mirrors_statement : Mirrors g (Stmt.relabel (.ofLines g)) statement statement := by
  refine Mirrors.get fun c => ?_
  have hrule : (c.reline g).rules.lookup (c.reline g).current.kind =
      c.rules.lookup c.current.kind := rfl
  simp only [hrule]
  split
  · rename_i rule _
    cases rule with
    | declaration => exact mirrors_declaration
    | print => exact mirrors_print
    | assignment => exact mirrors_assignment
  · exact mirrors_unexpected _

theorem mirrors_statements (n : Nat) :
    MirrorsBelow g n (List.map (Stmt.relabel (.ofLines g))) statements statements := by
  induction n with
  | zero => exact .zero
  | succ n ih =>
    intro c hc
    have hkind : (c.reline g).current.kind = c.current.kind := rfl
    rw [statements_eq, statements_eq, hkind]
    split
    · rfl
    · exact MirrorsBelow.bindShrinking statement_shrinking mirrors_statement.below
        (fun s => ih.bind fun body => mirrors_pure (s :: body)) c hc

/-- **A program is read in the same way on other lines.** -/
theorem mirrors_program : Mirrors g (Program.relabel (.ofLines g)) program program := by
  refine Mirrors.get fun c => ?_
  have hall : Mirrors g (List.map (Stmt.relabel (.ofLines g))) statements statements :=
    fun c => mirrors_statements (c.weight + 1) c (Nat.lt_succ_self _)
  exact hall.bind fun body => (mirrors_expect _).bind fun _ => mirrors_pure (Program.mk body c.current.line)

/-! ### Whole texts -/

/-- What a rule reads from the beginning of a feed. -/
def runOn (x : Parse α) (feed : Feed) (file : Option String) : Except Diagnostic α := do
  let c ← Cursor.ofFeed feed file
  match x c with
  | .ok a _ => return a
  | .error d _ => throw d

/-- A rule that reads in the same way on other lines gives, from the beginning of a feed on other
lines, what it gives from the beginning of the feed, on other lines. -/
theorem runOn_reline (hx : Mirrors g f x y) (feed : Feed) (file : Option String) :
    runOn y (feed.reline g) file =
      ((runOn x feed file).map f).mapError (Diagnostic.relabel (.ofLines g)) := by
  unfold runOn
  rw [Cursor.ofFeed_reline]
  cases Cursor.ofFeed feed file with
  | error d => rfl
  | ok c =>
    simp only [Except.map, Except.mapError, bind, Except.bind, hx c]
    cases x c <;> rfl

/-- **Tokens on other lines are read to the same program on other lines**, or give the same
diagnostic on another line. -/
theorem runOn_program_reline (feed : Feed) (file : Option String) :
    runOn program (feed.reline g) file =
      ((runOn program feed file).map (Program.relabel (.ofLines g))).mapError
        (Diagnostic.relabel (.ofLines g)) :=
  runOn_reline mirrors_program feed file

end Parse

end DeskCalc
