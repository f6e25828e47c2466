import DeskCalc.Proofs.Parse.Acceptance
import DeskCalc.Proofs.Parse.Procedure
import DeskCalc.Proofs.Parse.Trail
import DeskCalc.Proofs.Token.Progress

/-!
How deep reading goes. A call that passes no token goes to a procedure of less height, so that three levels
for each token that is left are enough (`Procedure.follows_run`), and a text has no more tokens than
characters. Main statement: with three levels for each character of the source text no run is cut short,
whatever the table of rules says and whatever was asked before (`parsing_terminates`).
-/

namespace DeskCalc

open Token (Kind)

/-! ### Cursors on a source text -/

namespace Cursor.Stands

variable {c c' : Cursor} {s : Scanner} {n : Nat}

/-- What is left to read is at most what the text has characters, and the token at hand. -/
theorem weight_le (h : c.Stands s n) : c.weight ≤ s.chars.length + 1 := by
  have hlength : c.feed.results.length ≤ s.chars.length := by
    rw [h.ahead, s.results_after, List.length_drop]
    exact Nat.le_trans (Nat.sub_le _ _) s.length_results_le
  unfold Cursor.weight
  split <;> omega

/-- At the end of input nothing is ahead. -/
theorem results_of_end (h : c.Stands s n) (he : c.current.kind = .endOfInput) :
    c.feed.results = [] := by
  have hmem : c.current ∈ s.given n := by simp [← h.tokens]
  obtain ⟨k, hk, hresult⟩ := List.mem_filterMap.mp hmem
  have hok : s.result k = .ok c.current := Except.eq_ok_of_toOption hresult
  have hlength : s.feed.results.length ≤ k := by
    by_contra hlt
    exact s.exhausts.before k (by omega) c.current hok he
  have hkn : k < n := List.mem_range.mp hk
  rw [h.ahead, s.results_after, List.drop_eq_nil_of_le (by omega)]

/-- Behind the end of input that is passed stands the end of input again. -/
theorem current_of_end {t : Token} (h : c.Stands s n) (hok : Parse.expect .endOfInput c = .ok t c') :
    c'.current.kind = .endOfInput := by
  obtain ⟨-, he⟩ := Parse.expect_eq_ok hok
  rw [Parse.expect, if_pos he, Parse.advance, Feed.next, h.results_of_end he] at hok
  cases hok
  rfl

end Cursor.Stands

namespace Parse

variable {α β : Type}

/-! ### Procedures, one by one -/

namespace Procedure

/-- How deep calls of a procedure nest that pass no token. -/
def height : {α : Type} → Procedure α → Nat
  | _, .expr => 3
  | _, .term => 2
  | _, .atom => 1
  | _, .tail _ _ => 1
  | _, .initialValue => 1
  | _, .rule _ => 1
  | _, .statement => 2
  | _, .statements => 3

theorem height_le (p : Procedure α) : p.height ≤ 3 := by
  cases p <;> simp [height]

/-- The statements that are recorded while a procedure gives a value. -/
def given : {α : Type} → Procedure α → α → List Stmt
  | _, .statement, s => [s]
  | _, .statements, body => body
  | _, _, _ => []

/-- What is recorded is what the value says. -/
def Records (p : Procedure α) : α → List Stmt → Prop := fun a more => more = p.given a

section

variable {call : {β : Type} → Procedure β → Limited β} {n : Nat} {c : Cursor}

/-- What is called follows its rule as long as calls nest at most `n` deep: three levels for each token that
is left, and the height of the procedure. -/
def FollowBelow (n : Nat) (call : {β : Type} → Procedure β → Limited β) : Prop :=
  ∀ {β : Type} (q : Procedure β) (c : Cursor), 3 * c.weight + q.height ≤ n →
    Follows (call q) q.parse q.Records c

/-- Behind a token that was passed any procedure can be called. -/
theorem FollowBelow.passed (hcall : FollowBelow n call) (q : Procedure α) (h : 3 * c.weight + 3 ≤ n) :
    Follows (call q) q.parse q.Records c := by
  have hheight := q.height_le
  exact hcall q c (by omega)

theorem follows_expr (hcall : FollowBelow n call) (h : 3 * c.weight + 3 ≤ n + 1) :
    Follows (body call .expr) Parse.expr Quiet c := by
  have hterm : Follows (call .term) Parse.term Quiet c :=
    hcall .term c (show 3 * c.weight + 2 ≤ n by omega)
  rw [expr_eq]
  apply hterm.andThen
  intro left c' hok
  have hlt := weight_lt_of_ok term_shrinking hok
  exact hcall.passed (.tail .sum left) (by omega)

theorem follows_term (hcall : FollowBelow n call) (h : 3 * c.weight + 2 ≤ n + 1) :
    Follows (body call .term) Parse.term Quiet c := by
  have hatom : Follows (call .atom) Parse.atom Quiet c :=
    hcall .atom c (show 3 * c.weight + 1 ≤ n by omega)
  rw [term_eq]
  apply hatom.andThen
  intro left c' hok
  have hlt := weight_lt_of_ok atom_shrinking hok
  exact hcall.passed (.tail .product left) (by omega)

theorem follows_parenthesised (hcall : FollowBelow n call) (h : 3 * c.weight ≤ n) :
    Follows (do
      let _ ← perform (expect .openParen)
      let e ← call .expr
      let _ ← perform (expect .closeParen)
      return e) parenthesised Quiet c := by
  apply (follows_perform (moves_expect (by decide))).andThen
  intro _ inner hopen
  have hlt := weight_lt_of_ok (expect_shrinking (by decide)) hopen
  have hexpr : Follows (call .expr) Parse.expr Quiet inner := hcall.passed .expr (by omega)
  apply hexpr.andThen
  intro e closing _
  apply (follows_perform (moves_expect (by decide))).andThen
  intro _ after _
  exact follows_pure rfl

theorem follows_atom (hcall : FollowBelow n call) (h : 3 * c.weight + 1 ≤ n + 1) :
    Follows (body call .atom) Parse.atom Quiet c := by
  apply Follows.ofHere
  cases hk : c.current.kind
  case integer => exact (follows_perform (moves_number (by decide) .int)).of_eq (atom_of_integer hk)
  case decimal => exact (follows_perform (moves_number (by decide) .float)).of_eq (atom_of_decimal hk)
  case identifier => exact (follows_perform moves_symbol).of_eq (atom_of_identifier hk)
  case openParen =>
    exact (follows_parenthesised hcall (by omega)).of_eq (atom_of_openParen hk)
  all_goals
    apply (follows_perform (moves_unexpected _)).of_eq
    simp only [atom_eq, hk]

theorem follows_link (hcall : FollowBelow n call) (h : 3 * c.weight ≤ n) {level : Level} {kind : Kind}
    {operator : Operator} (hs : Grammar.Sign level kind operator) (left : Expr) :
    Follows (do
      let token ← perform (expect kind)
      let right ← call (operand level)
      call (.tail level (.binary left operator right token.line)))
    (link level left kind operator) Quiet c := by
  have hne : kind ≠ .endOfInput := by cases hs <;> decide
  apply (follows_perform (moves_expect hne)).andThen
  intro token c' hsign
  have hlt := weight_lt_of_ok (expect_shrinking hne) hsign
  have hoperand : Follows (call (operand level)) (operandOf level) Quiet c' := by
    cases level with
    | sum => exact hcall.passed .term (by omega)
    | product => exact hcall.passed .atom (by omega)
  apply hoperand.andThen
  intro right c'' hright
  have hlt' := weight_lt_of_ok (operand_shrinking level) hright
  exact hcall.passed (.tail level _) (by omega)

theorem follows_tail (hcall : FollowBelow n call) (h : 3 * c.weight + 1 ≤ n + 1) (level : Level)
    (left : Expr) : Follows (body call (.tail level left)) (chainTail level left) Quiet c := by
  apply Follows.ofHere
  cases ho : level.operator? c.current.kind with
  | none =>
    simp only [ho]
    have hleft : Follows (pure left) (pure left) Quiet c := follows_pure rfl
    exact hleft.of_eq (chainTail_of_none left ho)
  | some operator =>
    simp only [ho]
    have hs : Grammar.Sign level c.current.kind operator := Grammar.sign_iff.mpr ho
    exact (follows_link hcall (by omega) hs left).of_eq (chainTail_of_sign left hs rfl)

theorem follows_initialValue (hcall : FollowBelow n call) (h : 3 * c.weight + 1 ≤ n + 1) :
    Follows (body call .initialValue) Parse.initialValue Quiet c := by
  apply Follows.ofHere
  by_cases hk : c.current.kind = .assign
  · rw [if_pos hk]
    refine Follows.of_eq ?_ (initialValue_of_assign hk)
    apply (follows_perform (moves_expect (by decide))).andThen
    intro _ c' hsign
    have hlt := weight_lt_of_ok (expect_shrinking (by decide)) hsign
    have hexpr : Follows (call .expr) Parse.expr Quiet c' := hcall.passed .expr (by omega)
    apply hexpr.andThen
    intro value c'' _
    exact follows_pure rfl
  · rw [if_neg hk]
    have hnone : Follows (α := Option Expr) (pure none) (pure none) Quiet c := follows_pure rfl
    exact hnone.of_eq (initialValue_of_ne hk)

/-- A semicolon behind what makes up a statement. -/
theorem follows_last (s : Stmt) :
    Follows (do let _ ← perform (expect .semicolon); return s)
      (do let _ ← expect .semicolon; return s) Quiet c := by
  apply (follows_perform (moves_expect (by decide))).andThen
  intro _ c' _
  exact follows_pure rfl

theorem follows_rule (hcall : FollowBelow n call) (h : 3 * c.weight + 1 ≤ n + 1) (r : Rule) :
    Follows (body call (.rule r)) r.parse Quiet c := by
  cases r with
  | declaration =>
    apply (follows_perform moves_typeName).andThen
    intro ty c₁ hty
    have hlt := weight_lt_of_ok typeName_shrinking hty
    apply (follows_perform moves_identifier).andThen
    intro target c₂ htarget
    have hlt' := weight_lt_of_ok identifier_shrinking htarget
    have hvalue : Follows (call .initialValue) Parse.initialValue Quiet c₂ :=
      hcall.passed .initialValue (by omega)
    apply hvalue.andThen
    intro value c₃ _
    exact follows_last _
  | print =>
    apply (follows_perform (moves_expect (by decide))).andThen
    intro _ c₁ _
    apply (follows_perform moves_identifier).andThen
    intro target c₂ _
    exact follows_last _
  | assignment =>
    apply (follows_perform moves_identifier).andThen
    intro target c₁ htarget
    have hlt := weight_lt_of_ok identifier_shrinking htarget
    apply (follows_perform (moves_expect (by decide))).andThen
    intro _ c₂ hsign
    have hlt' := weight_lt_of_ok (expect_shrinking (by decide)) hsign
    have hexpr : Follows (call .expr) Parse.expr Quiet c₂ := hcall.passed .expr (by omega)
    apply hexpr.andThen
    intro value c₃ _
    exact follows_last _

theorem follows_statement (hcall : FollowBelow n call) (h : 3 * c.weight + 2 ≤ n + 1) :
    Follows (body call .statement) Parse.statement Quiet c := by
  apply Follows.ofHere
  cases hr : c.rules.lookup c.current.kind with
  | some r =>
    have hrule : Follows (call (.rule r)) r.parse Quiet c :=
      hcall (.rule r) c (show 3 * c.weight + 1 ≤ n by omega)
    apply hrule.of_eq
    rw [Parse.statement, get_bind_eq, hr]
  | none =>
    apply (follows_perform (moves_unexpected _)).of_eq
    rw [Parse.statement, get_bind_eq, hr]

theorem follows_statements (hcall : FollowBelow n call) (h : 3 * c.weight + 3 ≤ n + 1) :
    Follows (body call .statements) Parse.statements (fun body more => more = body) c := by
  apply Follows.ofHere
  by_cases hk : c.current.kind = .endOfInput
  · rw [if_pos hk]
    have hdone : Follows (α := List Stmt) (pure []) (pure []) (fun body more => more = body) c :=
      follows_pure rfl
    apply hdone.of_eq
    rw [statements_eq, if_pos hk]
    rfl
  · rw [if_neg hk]
    have hmore : Follows
        (do
          let s ← call .statement
          let more ← call .statements
          return s :: more)
        (do
          let s ← Parse.statement
          let more ← Parse.statements
          return s :: more)
        (fun body more => more = body) c := by
      apply (hcall .statement c (show 3 * c.weight + 2 ≤ n by omega)).bind
      rintro s c' _ hs rfl
      have hlt := weight_lt_of_ok statement_shrinking hs
      apply (hcall.passed .statements (by omega)).bind
      intro rest c'' more _ hrest
      apply follows_pure
      show s :: (more ++ []) = s :: rest
      rw [List.append_nil, hrest]
      rfl
    apply hmore.of_eq
    rw [statements_eq, if_neg hk]

end

/-- **A procedure follows its rule where calls nest deep enough**: three levels for each token that is left,
and the height of the procedure. -/
theorem follows_run (n : Nat) : FollowBelow n (run n) := by
  induction n with
  | zero =>
    -- no procedure has height zero
    intro β q c h
    cases q <;> simp [height] at h
  | succ n ih =>
    intro β q c h
    cases q with
    | expr => exact (follows_expr ih h).record fun _ _ hmore => hmore ▸ rfl
    | term => exact (follows_term ih h).record fun _ _ hmore => hmore ▸ rfl
    | atom => exact (follows_atom ih h).record fun _ _ hmore => hmore ▸ rfl
    | tail level left => exact (follows_tail ih h level left).record fun _ _ hmore => hmore ▸ rfl
    | initialValue => exact (follows_initialValue ih h).record fun _ _ hmore => hmore ▸ rfl
    | rule r => exact (follows_rule ih h r).record fun _ _ hmore => hmore ▸ rfl
    | statement => exact (follows_statement ih h).record fun _ _ hmore => hmore ▸ rfl
    | statements =>
      apply (follows_statements ih h).record
      rintro _ more rfl
      exact List.append_nil more

/-- A procedure of which the rule reads at least one token advances. -/
theorem advances (p : Procedure α) (hp : Shrinking p.parse) (c : Cursor) : Advances p.parse c := by
  intro a c' h
  obtain ⟨ts, hts⟩ := (follows_run (3 * c.weight + p.height) p c (Nat.le_refl _)).passes a c' h
  refine ⟨ts, ?_, hts.ne_endOfInput, hts.passed_eq⟩
  rintro rfl
  -- a rule that has passed nothing has left as much to read
  cases hts
  exact Nat.lt_irrefl _ (weight_lt_of_ok hp h)

end Procedure

/-! ### Whole programs -/

theorem rule_shrinking (r : Rule) : Shrinking r.parse := by
  cases r with
  | declaration => exact declaration_shrinking
  | print => exact print_shrinking
  | assignment => exact assignment_shrinking

variable {c : Cursor} {n : Nat}

/-- A program is read as far as its statements are, and what is recorded is its body. -/
theorem agrees_program (h : 3 * c.weight + 3 ≤ n) :
    Agrees (runProgram n) program (fun p more => more = p.body) c := by
  have hbody : Agrees (Procedure.statements.run n) statements (fun body more => more = body) c :=
    (Procedure.follows_run n .statements c h).agrees
  unfold runProgram program here
  apply agrees_perform.bind
  rintro start c' _ hget rfl
  cases hget
  apply hbody.bind
  rintro body c' more _ rfl
  apply agrees_perform.bind
  rintro _ c'' _ _ rfl
  exact agrees_pure (List.append_nil _)

/-- Where a program is read to its end the cursor comes to stand at the end of input. -/
theorem ends_of_program {s : Scanner} {m : Nat} {p : Program} {c' : Cursor} (hc : c.Stands s m)
    (h : program c = .ok p c') : c'.current.kind = .endOfInput := by
  unfold program at h
  obtain ⟨start, _, hget, h⟩ := bind_eq_ok_iff.mp h
  cases hget
  obtain ⟨body, c₁, hbody, h⟩ := bind_eq_ok_iff.mp h
  obtain ⟨t, c₂, hlast, hvalue⟩ := bind_eq_ok_iff.mp h
  cases hvalue
  obtain ⟨ts, htrail⟩ := tracked_statements (c.weight + 1) c (Nat.lt_succ_self _)
  rw [hbody] at htrail
  obtain ⟨⟨m₁, -, hc₁⟩, -⟩ := htrail.stands hc
  exact hc₁.current_of_end hlast

/-- **Reading ends, whatever the rules are.** Let anything be asked of a cursor on a source text, failures
included, and let then any table of rules be set. With three levels for each character of the text no
procedure is cut short: each gives what its rule gives, a value or a diagnostic. An expression, a term, a
factor or a statement that is read has passed at least one token and not the end of input. The statements of
a program that is read are those that were given while it was read, in order, and behind them the cursor
stands at the end of input. -/
theorem parsing_terminates {source : String} {file : Option String} {start : Cursor}
    (h : Cursor.ofSource source file = .ok start) (calls : List Cursor.Call) (table : RuleTable)
    {n : Nat} (hn : 3 * source.length + 6 ≤ n) :
    let c := { start.serveAll calls with rules := table }
    (∀ (α : Type) (p : Procedure α), ∃ made, p.run n ⟨c, []⟩ = recorded made (p.parse c)) ∧
    (Advances expr c ∧ Advances term c ∧ Advances atom c ∧ Advances statement c ∧
      ∀ r : Rule, Advances r.parse c) ∧
    ∃ made, runProgram n ⟨c, []⟩ = recorded made (program c) ∧
      ∀ p c', program c = .ok p c' → made = p.body ∧ c'.current.kind = .endOfInput := by
  intro c
  obtain ⟨ts, htrail⟩ := start.exists_trail_serveAll calls
  obtain ⟨⟨m, -, hserved⟩, -⟩ := htrail.stands (Cursor.stands_ofSource h).1
  -- the cursor stands where it stood before the table was set
  have hc : c.Stands (Scanner.ofSource source file) m := ⟨hserved.tokens, hserved.ahead⟩
  have hweight : c.weight ≤ source.length + 1 := by
    rw [← String.length_toList]
    exact hc.weight_le
  refine ⟨?_, ?_, ?_⟩
  · intro α p
    have hheight := p.height_le
    obtain ⟨made, hrun, -⟩ := (Procedure.follows_run n p c (by omega)).agrees []
    exact ⟨made, hrun⟩
  · exact ⟨Procedure.expr.advances expr_shrinking c, Procedure.term.advances term_shrinking c,
      Procedure.atom.advances atom_shrinking c, Procedure.statement.advances statement_shrinking c,
      fun r => (Procedure.rule r).advances (rule_shrinking r) c⟩
  · obtain ⟨made, hrun, hmade⟩ := agrees_program (c := c) (n := n) (by omega) []
    exact ⟨made, hrun, fun p c' hp => ⟨hmade p c' hp, ends_of_program hc hp⟩⟩

/-- A table that has rules for the end of input and for signs, none of which begins a statement. -/
def foreignRules : RuleTable :=
  [(.identifier, .assignment), (.print, .print), (.endOfInput, .print), (.semicolon, .assignment),
    (.plus, .declaration), (.integer, .print)]

/-- A statement without a value fails and its semicolon is passed; the two statements behind it are then read
by the foreign rules. -/
theorem parsing_terminates_foreign_rules :
    ∃ start, Cursor.ofSource "x = ; y = (1 + 2) * 3; print y;" none = .ok start ∧
      let c := { start.serveAll [.statement, .expect .semicolon] with rules := foreignRules }
      ∃ p made c', runProgram 99 ⟨c, []⟩ = .ok p ⟨c', made⟩ ∧ made.length = 2 ∧
        c'.current.kind = .endOfInput := by
  obtain ⟨start, hstart, hread⟩ := Except.exists_of_any
    (x := Cursor.ofSource "x = ; y = (1 + 2) * 3; print y;" none)
    (p := fun start => match program
        { start.serveAll [.statement, .expect .semicolon] with rules := foreignRules } with
      | .ok p _ => decide (p.body.length = 2)
      | .error _ _ => false)
    (by decide +kernel)
  refine ⟨start, hstart, ?_⟩
  intro c
  obtain ⟨-, -, made, hrun, hends⟩ := parsing_terminates hstart [.statement, .expect .semicolon]
    foreignRules (n := 99) (by decide)
  split at hread
  · rename_i p c' hp
    obtain ⟨rfl, hend⟩ := hends p c' hp
    rw [hp] at hrun
    exact ⟨p, p.body, c', hrun, of_decide_eq_true hread, hend⟩
  · cases hread

end Parse

end DeskCalc
