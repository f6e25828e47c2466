import DeskCalc.Parse.Stmt
import DeskCalc.Proofs.Outcome
import DeskCalc.Proofs.Parse.Passing

/-!
What calls do to a cursor, those that fail included. Every rule moves the cursor by expecting tokens and
in no other way, so that it leaves a trail: the tokens that its expectations gave, in order
(`Call.exists_trail`). A trail keeps to what the scanner gives call by call (`Trail.stands`). Main
statement: after any calls the tokens given so far and the one the cursor stands on are the first tokens
of the source text, and a lexical error costs the bad lexeme and no token (`cursor_keeps_to_source`).
-/

namespace DeskCalc

open Token (Kind)

/-! ### Tokens call by call -/

namespace Scanner

/-- What is met first and what comes after it, for everything that a scanner gives. -/
theorem next_feed (s : Scanner) : s.feed.next = (s.next.1, s.next.2.feed) := by
  rcases hn : s.next with ⟨r, s'⟩
  cases r with
  | error d =>
    rw [feed_of_error hn]
    rfl
  | ok t =>
    by_cases ht : t.kind = .endOfInput
    · obtain ⟨rfl, hs'⟩ := next_end hn ht
      rw [feed_of_end hn rfl, feed_of_end (next_nil hs') rfl]
      rfl
    · rw [feed_of_token hn ht]
      rfl

theorem next_feed_after (s : Scanner) (n : Nat) :
    (s.after n).feed.next = (s.result n, (s.after (n + 1)).feed) := by
  rw [next_feed, after_succ]
  rfl

/-- After calls of a scanner as many results fewer are ahead. -/
theorem results_after (s : Scanner) (n : Nat) :
    (s.after n).feed.results = s.feed.results.drop n := by
  induction n with
  | zero => rfl
  | succ n ih =>
    rw [← List.tail_drop, ← ih]
    obtain ⟨hnil, -, hsame⟩ | ⟨hcons, -⟩ := Feed.next_inv (s.next_feed_after n)
    · rw [hsame, hnil]
      rfl
    · rw [hcons]
      rfl

/-- The tokens that the first `n` calls give, the calls that fail left out. -/
def given (s : Scanner) (n : Nat) : List Token :=
  (List.range n).filterMap fun k => (s.result k).toOption

theorem given_of_ok {s : Scanner} {n : Nat} {t : Token} (h : s.result n = .ok t) :
    s.given (n + 1) = s.given n ++ [t] := by
  simp [given, List.range_succ, h, Except.toOption]

theorem given_of_error {s : Scanner} {n : Nat} {d : Diagnostic} (h : s.result n = .error d) :
    s.given (n + 1) = s.given n := by
  simp [given, List.range_succ, h, Except.toOption]

end Scanner

namespace Cursor

open Parse (expect)

/-! ### Trails -/

/-- From one cursor to another by expecting tokens, of whatever kinds, and registering rules; the tokens
are those that were given, in order. -/
inductive Trail : Cursor → List Token → Cursor → Prop
  | done (c : Cursor) : Trail c [] c
  | given {c c' c'' : Cursor} {kind : Kind} {t : Token} {ts : List Token} :
      expect kind c = .ok t c' → Trail c' ts c'' → Trail c (t :: ts) c''
  | failed {c c' c'' : Cursor} {kind : Kind} {d : Diagnostic} {ts : List Token} :
      expect kind c = .error d c' → Trail c' ts c'' → Trail c ts c''
  | registered {c c' c'' : Cursor} {kind : Kind} {rule : Rule} {ts : List Token} :
      Parse.register kind rule c = .ok () c' → Trail c' ts c'' → Trail c ts c''

variable {c c' c'' : Cursor} {ts us : List Token} {s : Scanner} {n : Nat}

theorem Trail.append (h : Trail c ts c') (h' : Trail c' us c'') : Trail c (ts ++ us) c'' := by
  induction h with
  | done => exact h'
  | given he _ ih => exact .given he (ih h')
  | failed he _ ih => exact .failed he (ih h')
  | registered hr _ ih => exact .registered hr (ih h')

def Leads (c c' : Cursor) : Prop := ∃ ts, Trail c ts c'

theorem Leads.refl (c : Cursor) : Leads c c :=
  ⟨[], .done c⟩

theorem Leads.trans (h : Leads c c') (h' : Leads c' c'') : Leads c c'' := by
  obtain ⟨ts, ht⟩ := h
  obtain ⟨us, hu⟩ := h'
  exact ⟨ts ++ us, ht.append hu⟩

theorem leads_expect (kind : Kind) (c : Cursor) : Leads c (stateOf (expect kind c)) := by
  cases he : expect kind c with
  | ok t c' => exact ⟨[t], .given he (.done c')⟩
  | error d c' => exact ⟨[], .failed he (.done c')⟩

end Cursor

/-! ### The trails of rules -/

namespace Parse

open Cursor (Leads)

variable {α β : Type} {n : Nat} {x : Parse α} {f : α → Parse β}

/-- The rule leaves a trail, whether it succeeds or not, where less than `n` is left to read. -/
def TrackedBelow (n : Nat) (x : Parse α) : Prop :=
  ∀ c : Cursor, c.weight < n → Leads c (stateOf (x c))

def Tracked (x : Parse α) : Prop := ∀ c, Leads c (stateOf (x c))

theorem Tracked.below (hx : Tracked x) : TrackedBelow n x :=
  fun c _ => hx c

theorem TrackedBelow.zero : TrackedBelow 0 x :=
  fun _ hc => absurd hc (Nat.not_lt_zero _)

theorem leads_bind {c : Cursor} (hx : Leads c (stateOf (x c)))
    (hf : ∀ a c', x c = .ok a c' → Leads c' (stateOf (f a c'))) : Leads c (stateOf ((x >>= f) c)) := by
  show Leads c (stateOf (EStateM.bind x f c))
  unfold EStateM.bind
  cases hr : x c with
  | error d c' =>
    rw [hr] at hx
    exact hx
  | ok a c' =>
    rw [hr] at hx
    exact hx.trans (hf a c' hr)

theorem TrackedBelow.bind (hx : TrackedBelow n x) (hf : ∀ a, Tracked (f a)) :
    TrackedBelow n (x >>= f) :=
  fun c hc => leads_bind (hx c hc) fun a c' _ => hf a c'

theorem Tracked.bind (hx : Tracked x) (hf : ∀ a, Tracked (f a)) : Tracked (x >>= f) :=
  fun c => leads_bind (hx c) fun a c' _ => hf a c'

/-- After a rule that reads something less is left to read. -/
theorem TrackedBelow.bindShrinking (hs : Shrinking x) (hx : TrackedBelow (n + 1) x)
    (hf : ∀ a, TrackedBelow n (f a)) : TrackedBelow (n + 1) (x >>= f) := by
  intro c hc
  refine leads_bind (hx c hc) fun a c' hr => hf a c' ?_
  have hw := hs c
  rw [hr] at hw
  exact Nat.lt_of_lt_of_le hw (Nat.lt_succ_iff.mp hc)

theorem Tracked.get {f : Cursor → Parse α} (hf : ∀ c, Tracked (f c)) : Tracked (get >>= f) :=
  fun c => hf c c

theorem tracked_pure (a : α) : Tracked (pure a) :=
  fun c => .refl c

theorem tracked_ofExcept (r : Except Diagnostic α) : Tracked (ofExcept r) := by
  intro c
  cases r <;> exact .refl c

theorem tracked_unexpected (message : String) : Tracked (unexpected (α := α) message) :=
  fun c => .refl c

theorem tracked_expect (kind : Kind) : Tracked (expect kind) :=
  Cursor.leads_expect kind

/-! ### Expressions -/

theorem tracked_number (kind : Kind) (ty : Ty) : Tracked (number kind ty) :=
  (tracked_expect kind).bind fun _ => tracked_ofExcept _

theorem tracked_symbol : Tracked symbol :=
  (tracked_expect .identifier).bind fun _ => tracked_ofExcept _

/-- The rules for expressions leave trails where less than `n` is left to read. -/
structure ExprsTracked (n : Nat) : Prop where
  expr : TrackedBelow n expr
  term : TrackedBelow n term
  atom : TrackedBelow n atom
  tail : ∀ level left, TrackedBelow n (chainTail level left)

theorem ExprsTracked.operand (h : ExprsTracked n) (level : Level) :
    TrackedBelow n (operandOf level) := by
  cases level with
  | sum => exact h.term
  | product => exact h.atom

theorem tracked_atom_succ (h : ExprsTracked n) : TrackedBelow (n + 1) atom := by
  intro c hc
  rw [atom_eq]
  cases hk : c.current.kind <;> simp only
  case integer => exact tracked_number .integer .int c
  case decimal => exact tracked_number .decimal .float c
  case identifier => exact tracked_symbol c
  case openParen =>
    rw [advance_bind_eq, hk]
    refine TrackedBelow.bindShrinking (expect_shrinking (by decide)) (tracked_expect _).below
      (fun _ => ?_) c hc
    exact h.expr.bind fun e => (tracked_expect _).bind fun _ => tracked_pure e
  all_goals exact tracked_unexpected _ c

theorem tracked_tail_succ (h : ExprsTracked n) (level : Level) (left : Expr) :
    TrackedBelow (n + 1) (chainTail level left) := by
  intro c hc
  rw [chainTail_eq]
  cases ho : level.operator? c.current.kind with
  | none => exact .refl c
  | some operator =>
    have hne : c.current.kind ≠ .endOfInput := by
      intro hk
      rw [hk, Level.operator?_endOfInput] at ho
      cases ho
    simp only
    rw [advance_bind_eq]
    refine TrackedBelow.bindShrinking (expect_shrinking hne) (tracked_expect _).below
      (fun token => ?_) c hc
    -- the operand and what follows it have less left to read
    cases n with
    | zero => exact .zero
    | succ n =>
      refine TrackedBelow.bindShrinking (operand_shrinking level) (h.operand level) fun right => ?_
      exact fun c' hc' => h.tail level _ c' (Nat.lt_succ_of_lt hc')

theorem tracked_term_succ (h : ExprsTracked n) : TrackedBelow (n + 1) term := by
  rw [term_eq]
  exact TrackedBelow.bindShrinking atom_shrinking (tracked_atom_succ h) (h.tail .product)

theorem tracked_expr_succ (h : ExprsTracked n) : TrackedBelow (n + 1) expr := by
  rw [expr_eq]
  exact TrackedBelow.bindShrinking term_shrinking (tracked_term_succ h) (h.tail .sum)

theorem exprsTracked (n : Nat) : ExprsTracked n := by
  induction n with
  | zero => exact ⟨.zero, .zero, .zero, fun _ _ => .zero⟩
  | succ n ih =>
    exact ⟨tracked_expr_succ ih, tracked_term_succ ih, tracked_atom_succ ih, tracked_tail_succ ih⟩

theorem tracked_expr : Tracked expr :=
  fun c => (exprsTracked (c.weight + 1)).expr c (Nat.lt_succ_self _)

theorem tracked_term : Tracked term :=
  fun c => (exprsTracked (c.weight + 1)).term c (Nat.lt_succ_self _)

theorem tracked_atom : Tracked atom :=
  fun c => (exprsTracked (c.weight + 1)).atom c (Nat.lt_succ_self _)

/-! ### Statements and programs -/

theorem tracked_typeName : Tracked typeName := by
  refine Tracked.get fun c => ?_
  split
  · exact (tracked_expect _).bind fun _ => tracked_pure _
  · exact (tracked_expect _).bind fun _ => tracked_pure _
  · exact tracked_unexpected _

theorem tracked_identifier : Tracked identifier :=
  (tracked_expect _).bind fun _ => tracked_ofExcept _

theorem tracked_initialValue : Tracked initialValue := by
  refine Tracked.get fun c => ?_
  split
  · exact (tracked_expect _).bind fun _ => tracked_expr.bind fun _ => tracked_pure _
  · exact tracked_pure _

theorem tracked_rule (rule : Rule) : Tracked rule.parse := by
  cases rule with
  | declaration =>
    exact tracked_typeName.bind fun _ => tracked_identifier.bind fun _ =>
      tracked_initialValue.bind fun _ => (tracked_expect _).bind fun _ => tracked_pure _
  | print =>
    exact (tracked_expect _).bind fun _ => tracked_identifier.bind fun _ =>
      (tracked_expect _).bind fun _ => tracked_pure _
  | assignment =>
    exact tracked_identifier.bind fun _ => (tracked_expect _).bind fun _ =>
      tracked_expr.bind fun _ => (tracked_expect _).bind fun _ => tracked_pure _

theorem tracked_statement : Tracked statement := by
  refine Tracked.get fun c => ?_
  split
  · exact tracked_rule _
  · exact tracked_unexpected _

theorem tracked_statements (n : Nat) : TrackedBelow n statements := by
  induction n with
  | zero => exact .zero
  | succ n ih =>
    intro c hc
    rw [statements_eq]
    split
    · exact .refl c
    · exact TrackedBelow.bindShrinking statement_shrinking tracked_statement.below
        (fun s => ih.bind fun body => tracked_pure (s :: body)) c hc

theorem tracked_program : Tracked program := by
  refine Tracked.get fun c => ?_
  have hall : Tracked statements := fun c => tracked_statements (c.weight + 1) c (Nat.lt_succ_self _)
  exact hall.bind fun _ => (tracked_expect _).bind fun _ => tracked_pure _

end Parse

namespace Cursor

open Parse (expect)

variable {c c' c'' : Cursor} {ts us : List Token} {s : Scanner} {n : Nat}

/-! ### Calls -/

/-- What can be asked of a cursor: to expect a token, to read by a rule, or to register one. -/
inductive Call where
  | expect (kind : Kind)
  | statement
  | rule (rule : Rule)
  | expr
  | term
  | atom
  | program
  | register (kind : Kind) (rule : Rule)

/-- The cursor that a call leaves, whether the call succeeds or not. -/
def serve (c : Cursor) : Call → Cursor
  | .expect kind => stateOf (expect kind c)
  | .statement => stateOf (Parse.statement c)
  | .rule rule => stateOf (rule.parse c)
  | .expr => stateOf (Parse.expr c)
  | .term => stateOf (Parse.term c)
  | .atom => stateOf (Parse.atom c)
  | .program => stateOf (Parse.program c)
  | .register kind rule => stateOf (Parse.register kind rule c)

def serveAll (c : Cursor) (calls : List Call) : Cursor :=
  calls.foldl serve c

/-- **A call moves the cursor by expecting tokens**, and in no other way. -/
theorem Call.exists_trail (c : Cursor) (call : Call) : Leads c (c.serve call) := by
  cases call with
  | expect kind => exact leads_expect kind c
  | statement => exact Parse.tracked_statement c
  | rule rule => exact Parse.tracked_rule rule c
  | expr => exact Parse.tracked_expr c
  | term => exact Parse.tracked_term c
  | atom => exact Parse.tracked_atom c
  | program => exact Parse.tracked_program c
  | register kind rule => exact ⟨[], .registered rfl (.done _)⟩

theorem exists_trail_serveAll (c : Cursor) (calls : List Call) : Leads c (c.serveAll calls) := by
  induction calls generalizing c with
  | nil => exact .refl c
  | cons call calls ih => exact (call.exists_trail c).trans (ih (c.serve call))

/-! ### Where a cursor stands -/

/-- The cursor stands behind `n` calls of the scanner: what it has passed and the token it stands on are
the tokens that these calls gave, and ahead of it is what the scanner gives from there. -/
structure Stands (s : Scanner) (n : Nat) (c : Cursor) : Prop where
  tokens : c.passed.reverse ++ [c.current] = s.given n
  ahead : c.feed = (s.after n).feed

/-- What comes of passing the current token when the scanner, called so often, is called again: the token
and the next one in its place, or an error and no other token. -/
def pass (s : Scanner) (n : Nat) (c : Cursor) : EStateM.Result Diagnostic Cursor Token :=
  match s.result n with
  | .ok t => .ok c.current
    { c with passed := c.current :: c.passed, current := t, feed := (s.after (n + 1)).feed }
  | .error d => .error d { c with feed := (s.after (n + 1)).feed }

theorem stands_ofSource {source : String} {file : Option String}
    (h : ofSource source file = .ok c) : c.Stands (Scanner.ofSource source file) 1 ∧ c.passed = [] := by
  unfold ofSource at h
  generalize Scanner.ofSource source file = s at h
  rw [Scanner.next_feed] at h
  obtain ⟨t, ht, rfl⟩ := Except.map_eq_ok_iff.mp h
  have hresult : s.result 0 = .ok t := ht
  exact ⟨⟨(Scanner.given_of_ok hresult).symm, rfl⟩, rfl⟩

namespace Stands

/-- An expectation of the kind at hand passes the token. -/
theorem expect_current (h : c.Stands s n) : expect c.current.kind c = c.pass s n := by
  have hnext := s.next_feed_after n
  rw [← h.ahead] at hnext
  unfold Parse.expect Parse.advance pass
  rw [if_pos rfl, hnext]
  cases s.result n <;> rfl

/-- A token given is passed, and the next one of the scanner takes its place. -/
theorem given {t : Token} {kind : Kind} (h : c.Stands s n) (he : expect kind c = .ok t c') :
    c'.Stands s (n + 1) ∧ t = c.current ∧ c'.passed = c.current :: c.passed := by
  by_cases hk : c.current.kind = kind
  · subst hk
    rw [h.expect_current, pass] at he
    cases hr : s.result n with
    | error d =>
      rw [hr] at he
      cases he
    | ok next =>
      rw [hr] at he
      cases he
      refine ⟨⟨?_, rfl⟩, rfl, rfl⟩
      rw [Scanner.given_of_ok hr, ← h.tokens, List.reverse_cons]
  · rw [Parse.expect, if_neg hk] at he
    cases he

/-- A failure keeps the cursor on its token. -/
theorem failed {d : Diagnostic} {kind : Kind} (h : c.Stands s n) (he : expect kind c = .error d c') :
    (c'.Stands s n ∨ c'.Stands s (n + 1)) ∧ c'.passed = c.passed := by
  by_cases hk : c.current.kind = kind
  · subst hk
    rw [h.expect_current, pass] at he
    cases hr : s.result n with
    | ok next =>
      rw [hr] at he
      cases he
    | error d =>
      rw [hr] at he
      cases he
      refine ⟨.inr ⟨?_, rfl⟩, rfl⟩
      rw [Scanner.given_of_error hr, ← h.tokens]
  · rw [Parse.expect, if_neg hk] at he
    cases he
    exact ⟨.inl h, rfl⟩

end Stands

/-- **A trail keeps to the scanner**: it never goes back, and what it gives is what was passed. -/
theorem Trail.stands (h : Trail c ts c') (hc : c.Stands s n) :
    (∃ m, n ≤ m ∧ c'.Stands s m) ∧ c'.passed = ts.reverse ++ c.passed := by
  induction h generalizing n with
  | done => exact ⟨⟨n, Nat.le_refl n, hc⟩, rfl⟩
  | @given c c₁ c' kind t ts he _ ih =>
    obtain ⟨hc₁, rfl, hpassed⟩ := hc.given he
    obtain ⟨⟨m, hm, hc'⟩, htokens⟩ := ih hc₁
    refine ⟨⟨m, Nat.le_of_succ_le hm, hc'⟩, ?_⟩
    rw [htokens, hpassed, List.reverse_cons, List.append_assoc]
    rfl
  | failed he _ ih =>
    obtain ⟨hc₁, hpassed⟩ := hc.failed he
    rcases hc₁ with hc₁ | hc₁
    · rw [← hpassed]
      exact ih hc₁
    · obtain ⟨⟨m, hm, hc'⟩, htokens⟩ := ih hc₁
      exact ⟨⟨m, Nat.le_of_succ_le hm, hc'⟩, by rw [htokens, hpassed]⟩
  | registered hr _ ih =>
    cases hr
    exact ih ⟨hc.tokens, hc.ahead⟩

/-- How a cursor behind `n` calls of the scanner takes an expectation: of another kind it changes nothing;
of the kind at hand it passes the token, unless the scanner fails, when the cursor stays on the token and
the same expectation goes on behind what could not be read. -/
structure Obeys (s : Scanner) (n : Nat) (c : Cursor) : Prop where
  other : ∀ kind, kind ≠ c.current.kind →
    expect kind c = .error (c.diagnostic (.unexpectedToken kind c.current.kind)) c
  current : expect c.current.kind c = c.pass s n
  again : ∀ d, s.result n = .error d → ∃ c', expect c.current.kind c = .error d c' ∧
    c'.current = c.current ∧ c'.passed = c.passed ∧ expect c.current.kind c' = c'.pass s (n + 1)

theorem Stands.obeys (h : c.Stands s n) : c.Obeys s n where
  other kind hk := if_neg hk.symm
  current := h.expect_current
  again d hd := by
    have hagain : Stands s (n + 1) { c with feed := (s.after (n + 1)).feed } :=
      ⟨h.tokens.trans (Scanner.given_of_error hd).symm, rfl⟩
    refine ⟨{ c with feed := (s.after (n + 1)).feed }, ?_, rfl, rfl, hagain.expect_current⟩
    rw [h.expect_current, pass, hd]

/-- **The cursor never skips, repeats or goes back.** Whatever was asked of a cursor, failures included,
it was moved by expectations alone, and the tokens that these gave are those it has passed; with the token
it stands on behind them they are the tokens that the first calls of the scanner give, failed calls left
out. From there an expectation does what it should. -/
theorem cursor_keeps_to_source {source : String} {file : Option String} {c : Cursor}
    (h : ofSource source file = .ok c) (calls : List Call) :
    ∃ n ts, Trail c ts (c.serveAll calls) ∧ (c.serveAll calls).passed = ts.reverse ∧
      ts ++ [(c.serveAll calls).current] = (Scanner.ofSource source file).given n ∧
      (c.serveAll calls).Obeys (Scanner.ofSource source file) n := by
  obtain ⟨hstart, hempty⟩ := stands_ofSource h
  obtain ⟨ts, ht⟩ := c.exists_trail_serveAll calls
  obtain ⟨⟨n, -, hstands⟩, hpassed⟩ := ht.stands hstart
  rw [hempty, List.append_nil] at hpassed
  refine ⟨n, ts, ht, hpassed, ?_, hstands.obeys⟩
  rw [← hstands.tokens, hpassed, List.reverse_reverse]

/-- Calls that fail in every way: another kind than the one at hand, a lexical error behind the first token
of a statement and one in the middle of an expression, and a rule that does not begin with the token it is
registered for. -/
def failing : List Call :=
  [.expect .semicolon, .statement, .statement, .register .integer .print, .statement]

/-- The failing calls pass three tokens; then the factor is read behind the second lexical error. -/
theorem cursor_keeps_to_source_failing :
    ∃ c, ofSource "x @ = (1 # + ;" none = .ok c ∧
      (c.serveAll failing).passed.reverse.map Token.kind = [.identifier, .assign, .openParen] ∧
      (c.serveAll (failing ++ [.atom])).current.kind = .plus ∧
      ∃ n ts, Trail c ts (c.serveAll (failing ++ [.atom])) ∧
        ts ++ [(c.serveAll (failing ++ [.atom])).current] =
          (Scanner.ofSource "x @ = (1 # + ;" none).given n := by
  obtain ⟨c, hc, hkinds⟩ := Except.exists_of_any (x := ofSource "x @ = (1 # + ;" none)
    (p := fun c => decide ((c.serveAll failing).passed.reverse.map Token.kind =
      [.identifier, .assign, .openParen] ∧ (c.serveAll (failing ++ [.atom])).current.kind = .plus))
    (by decide +kernel)
  obtain ⟨hpassed, hcurrent⟩ := of_decide_eq_true hkinds
  obtain ⟨n, ts, ht, -, htokens, -⟩ := cursor_keeps_to_source hc (failing ++ [.atom])
  exact ⟨c, hc, hpassed, hcurrent, n, ts, ht, htokens⟩

end Cursor

end DeskCalc
