import DeskCalc.Proofs.Parse.Acceptance
import DeskCalc.Proofs.Tree.Readable
import DeskCalc.Tree.Printer

/-!
Printing and reading again. The text of a readable expression is cut into tokens from which the
grammar derives the expression as a factor, on whatever line it stands (`Expr.Readable.written`);
each statement of a program stands on a line of its own. Main statement: the text of a readable
program is read as the same tree with its lines renumbered, and every tree of a source text is such a
program (`parse_written`).
-/

namespace DeskCalc

open Token (Kind Lexeme)

/-! ### Lines renumbered -/

/-- The expression with all its nodes on the line. -/
def Expr.atLine (n : Nat) : Expr → Expr
  | number text ty _ => number text ty n
  | symbol name _ => symbol name n
  | binary left operator right _ => binary (left.atLine n) operator (right.atLine n) n
  | convert inner target _ => convert (inner.atLine n) target n

def Stmt.atLine (n : Nat) : Stmt → Stmt
  | declaration target ty value _ =>
    declaration ⟨target.name, n⟩ ty (value.map (Expr.atLine n)) n
  | assignment target value _ => assignment ⟨target.name, n⟩ (value.atLine n) n
  | print target _ => print ⟨target.name, n⟩ n

/-- The statements on lines of their own, from the line `n` on. -/
def Stmt.numbered (n : Nat) : List Stmt → List Stmt
  | [] => []
  | s :: body => s.atLine n :: numbered (n + 1) body

/-- The program with its k-th statement on line k, and on line 1 itself. -/
def Program.relined (p : Program) : Program :=
  ⟨Stmt.numbered 1 p.body, 1⟩

theorem Expr.atLine_atLine (e : Expr) (n m : Nat) : (e.atLine m).atLine n = e.atLine n := by
  induction e with
  | number => rfl
  | symbol => rfl
  | binary left operator right line ihl ihr => simp only [atLine, ihl, ihr]
  | convert inner target line ih => simp only [atLine, ih]

theorem Stmt.atLine_atLine (s : Stmt) (n m : Nat) : (s.atLine m).atLine n = s.atLine n := by
  cases s with
  | declaration target ty value line =>
    cases value <;> simp only [atLine, Option.map, Expr.atLine_atLine]
  | assignment => simp only [atLine, Expr.atLine_atLine]
  | print => rfl

theorem Stmt.numbered_numbered (body : List Stmt) (n m : Nat) :
    numbered n (numbered m body) = numbered n body := by
  induction body generalizing n m with
  | nil => rfl
  | cons s body ih => simp only [numbered, atLine_atLine, ih]

/-- Lines that were renumbered are renumbered to the same lines. -/
theorem Program.relined_relined (p : Program) : p.relined.relined = p.relined := by
  simp only [relined, Stmt.numbered_numbered]

theorem Expr.written_atLine (e : Expr) (n : Nat) : (e.atLine n).written = e.written := by
  induction e with
  | number => rfl
  | symbol => rfl
  | binary left operator right line ihl ihr => simp only [atLine, written, ihl, ihr]
  | convert inner target line ih => simp only [atLine, written, ih]

theorem Stmt.written_atLine (s : Stmt) (n : Nat) : (s.atLine n).written = s.written := by
  cases s with
  | declaration target ty value line =>
    cases value <;> simp only [atLine, Option.map, written, Expr.written_atLine]
  | assignment => simp only [atLine, written, Expr.written_atLine]
  | print => rfl

/-- The text of a program does not depend on its lines. -/
theorem Program.written_relined (p : Program) : p.relined.written = p.written := by
  have hbody : ∀ (body : List Stmt) (n : Nat),
      (Stmt.numbered n body).map (fun s => s.written ++ "\n") =
        body.map fun s => s.written ++ "\n" := by
    intro body
    induction body with
    | nil => exact fun _ => rfl
    | cons s body ih =>
      intro n
      simp only [Stmt.numbered, List.map_cons, Stmt.written_atLine, ih]
  simp only [relined, written, hbody]

/-! ### Cutting what was written -/

namespace Cut

variable {n m : Nat} {rest : List Char} {ts : List Token}

/-- A sign is a token whatever follows it. -/
theorem sign {c : Char} {kind : Kind} (h : Kind.punctuation? c = some kind)
    (hrest : Cut n rest ts m) : Cut n (c :: rest) (⟨kind, n, none⟩ :: ts) m := by
  have hends : kind.Ends rest := fun d _ => Token.goesOn_punctuation h d
  exact .token (.punctuation h) hends hrest

/-- A space between two texts. -/
theorem space {front : List Char} {us : List Token} (h : Cut n front ts n)
    (hrest : Cut n rest us m) : Cut n (front ++ ' ' :: rest) (ts ++ us) m := by
  have hspace : Cut n (' ' :: rest) us m := .blank rfl hrest
  exact .append (Token.parts_of_isSpace rfl) h hspace

/-- A sign with spaces around it between two texts. -/
theorem between {front : List Char} {us : List Token} {c : Char} {kind : Kind}
    (h : Cut n front ts n) (hc : Kind.punctuation? c = some kind) (hrest : Cut n rest us m) :
    Cut n (front ++ ' ' :: c :: ' ' :: rest) (ts ++ ⟨kind, n, none⟩ :: us) m := by
  have hspace : Cut n (' ' :: rest) us m := .blank rfl hrest
  exact h.space (.sign hc hspace)

/-- A semicolon at the end. -/
theorem semicolon (h : Cut n rest ts n) :
    Cut n (rest ++ [';']) (ts ++ [⟨.semicolon, n, none⟩]) n :=
  .append Token.parts_semicolon h (sign rfl .nil)

/-- A keyword alone. -/
theorem ofKeyword {word : String} {kind : Kind} (h : Kind.keyword? word.toList = some kind) :
    Cut n word.toList [⟨kind, n, none⟩] n := by
  have hcut : Cut n (word.toList ++ []) [⟨kind, n, none⟩] n :=
    .token (.keyword h) (Token.Kind.ends_nil kind) .nil
  rwa [List.append_nil] at hcut

end Cut

/-! ### Expressions -/

open Grammar

theorem Operator.sign_token (operator : Operator) :
    ∃ level kind c, operator.sign.toList = [c] ∧ Kind.punctuation? c = some kind ∧
      Sign level kind operator := by
  cases operator with
  | add => exact ⟨_, _, '+', rfl, rfl, .plus⟩
  | sub => exact ⟨_, _, '-', rfl, rfl, .minus⟩
  | mul => exact ⟨_, _, '*', rfl, rfl, .times⟩
  | div => exact ⟨_, _, '/', rfl, rfl, .over⟩

/-- One operation on two factors is an expression. -/
theorem derives_operation {level : Level} {ts us : List Token} {left right : Expr}
    {operator : Operator} {sign : Token} (hs : Sign level sign.kind operator)
    (hl : DerivesExpr .factor ts left) (hr : DerivesExpr .factor us right) :
    DerivesExpr .expr (ts ++ sign :: us) (.binary left operator right sign.line) := by
  have hlink : Links level left (sign :: (us ++ [])) (.binary left operator right sign.line) :=
    (links_nil level _).cons hs (hr.ofFactor _)
  rw [List.append_nil] at hlink
  have hchain := hlink.chain (hl.ofFactor _)
  cases level with
  | sum => exact hchain
  | product =>
    have hterm : DerivesExpr (.operand .sum) _ _ := hchain
    exact hterm.single

/-- **A readable expression is written as a factor**, which is read as the same expression on the
line where it stands. -/
theorem Expr.Readable.written {e : Expr} (h : e.Readable) (n : Nat) :
    ∃ ts, Cut n e.written.toList ts n ∧ DerivesExpr .factor ts (e.atLine n) := by
  induction e with
  | number text ty line =>
    have hcut := Cut.ofLexeme (n := n) (readsAs_iff.mp h)
    cases ty with
    | int => exact ⟨_, hcut, .integer rfl⟩
    | float => exact ⟨_, hcut, .decimal rfl⟩
  | symbol name line => exact ⟨_, Cut.ofLexeme (readsAs_iff.mp h), .symbol rfl⟩
  | binary left operator right line ihl ihr =>
    obtain ⟨ts, hcutl, hl⟩ := ihl h.1
    obtain ⟨us, hcutr, hr⟩ := ihr h.2
    obtain ⟨level, kind, c, hsign, hkind, hs⟩ := operator.sign_token
    have hright : Cut n (right.written.toList ++ [')']) (us ++ [⟨.closeParen, n, none⟩]) n :=
      .append Token.parts_closeParen hcutr (.sign rfl .nil)
    have htext : (binary left operator right line).written.toList =
        '(' :: (left.written.toList ++ ' ' :: c :: ' ' :: (right.written.toList ++ [')'])) := by
      simp [Expr.written, hsign]
    have hoperation : DerivesExpr .expr (ts ++ Token.mk kind n none :: us)
        (.binary (left.atLine n) operator (right.atLine n) n) := derives_operation hs hl hr
    have hgroup : DerivesExpr .factor
        (⟨.openParen, n, none⟩ :: (ts ++ ⟨kind, n, none⟩ :: us) ++ [⟨.closeParen, n, none⟩])
        ((binary left operator right line).atLine n) := .group rfl rfl hoperation
    refine ⟨_, ?_, hgroup⟩
    rw [htext, List.cons_append, List.append_assoc, List.cons_append]
    exact .sign rfl (hcutl.between hkind hright)
  | convert => exact h.elim

/-! ### Statements -/

theorem keyword?_name (ty : Ty) : Kind.keyword? ty.name.toList = some (keyword ty) := by
  cases ty <;> rfl

/-- A readable statement is written as tokens that are read as the same statement on the line where
it stands. -/
theorem Stmt.Readable.written {s : Stmt} (h : s.Readable) (n : Nat) :
    ∃ first rest, first.line = n ∧ Cut n s.written.toList (first :: rest) n ∧
      DerivesStmt (first :: rest) (s.atLine n) := by
  obtain ⟨hname, hvalue⟩ := h
  have hname := Cut.ofLexeme (n := n) (readsAs_iff.mp hname)
  cases s with
  | declaration target ty value line =>
    have hty := Cut.ofKeyword (n := n) (keyword?_name ty)
    cases value with
    | none =>
      have htext : (declaration target ty none line).written.toList =
          ty.name.toList ++ ' ' :: (target.name.toList ++ [';']) := by
        simp [Stmt.written]
      refine ⟨_, _, rfl, htext ▸ hty.space hname.semicolon, ?_⟩
      exact .declaration rfl rfl .nothing rfl
    | some e =>
      obtain ⟨ts, hcut, he⟩ := (hvalue e rfl).written n
      have htext : (declaration target ty (some e) line).written.toList = ty.name.toList ++ ' ' ::
          (target.name.toList ++ ' ' :: '=' :: ' ' :: (e.written.toList ++ [';'])) := by
        simp [Stmt.written]
      refine ⟨_, _, rfl, htext ▸ hty.space (hname.between rfl hcut.semicolon), ?_⟩
      exact .declaration rfl rfl (.value rfl (he.ofFactor _)) rfl
  | assignment target e line =>
    obtain ⟨ts, hcut, he⟩ := (hvalue e rfl).written n
    have htext : (assignment target e line).written.toList =
        target.name.toList ++ ' ' :: '=' :: ' ' :: (e.written.toList ++ [';']) := by
      simp [Stmt.written]
    refine ⟨_, _, rfl, htext ▸ hname.between rfl hcut.semicolon, ?_⟩
    exact .assignment rfl rfl (he.ofFactor _) rfl
  | print target line =>
    have hprint : Kind.keyword? "print".toList = some .print := by decide
    have htext : (print target line).written.toList =
        "print".toList ++ ' ' :: (target.name.toList ++ [';']) := by
      simp [Stmt.written]
    refine ⟨_, _, rfl, htext ▸ (Cut.ofKeyword hprint).space hname.semicolon, ?_⟩
    exact .print rfl rfl rfl

/-! ### Programs -/

/-- Readable statements are written on lines of their own, and are read as the same statements on
these lines. -/
theorem written_numbered {body : List Stmt} (h : ∀ s ∈ body, s.Readable) (n : Nat) :
    ∃ ts, Cut n (String.join (body.map fun s => s.written ++ "\n")).toList ts (n + body.length) ∧
      DerivesBody ts (Stmt.numbered n body) ∧
      ∃ first ∈ (ts ++ [Token.mk .endOfInput (n + body.length) none]).head?, n = first.line := by
  induction body generalizing n with
  | nil => exact ⟨[], .nil, .nil, _, rfl, rfl⟩
  | cons s body ih =>
    obtain ⟨hs, hbody⟩ := List.forall_mem_cons.mp h
    obtain ⟨first, rest, hline, hcut, hstmt⟩ := hs.written n
    obtain ⟨us, hrest, hderives, -⟩ := ih hbody (n + 1)
    have hbreak : Cut n ('\n' :: (String.join (body.map fun s => s.written ++ "\n")).toList) us
        (n + (s :: body).length) := by
      rw [List.length_cons, Nat.add_comm body.length 1, ← Nat.add_assoc]
      exact .blank rfl hrest
    refine ⟨first :: rest ++ us, ?_, .cons hstmt hderives, first, rfl, hline.symm⟩
    rw [List.map_cons, String.join_cons]
    simp only [String.toList_append, List.append_assoc]
    exact .append (Token.parts_of_isSpace rfl) hcut hbreak

/-- **The text of a readable program is read as the program with its lines renumbered.** -/
theorem Program.Readable.parse {p : Program} (h : p.Readable) (file : Option String) :
    DeskCalc.parse p.written file = .ok p.relined := by
  obtain ⟨ts, hcut, hbody, hfirst⟩ := written_numbered h 1
  exact Parse.parse_of_derives (tokenize_of_cut hcut file) ⟨ts, _, rfl, rfl, hbody, hfirst⟩

/-- The tree of a source text is readable. -/
theorem readable_of_parse {source : String} {file : Option String} {p : Program}
    (h : parse source file = .ok p) : p.Readable := by
  obtain ⟨tokens, htokens, ts, last, rfl, -, hbody, -⟩ := Parse.derives_of_parse h
  exact hbody.readable (genuine_of_tokenize htokens)

/-- **Printing and reading again is the identity.** The text of a readable program is read as the
program with its lines renumbered; the tree of a source text is such a program, so its text is read
as a tree that is the same up to lines and has the same text. -/
theorem parse_written :
    (∀ (p : Program) (file : Option String), p.Readable →
      parse p.written file = .ok p.relined) ∧
    ∀ (source : String) (file file' : Option String) (p : Program), parse source file = .ok p →
      ∃ q, parse p.written file' = .ok q ∧ q.relined = p.relined ∧ q.written = p.written := by
  constructor
  · intro p file h
    exact h.parse file
  · intro source file file' p h
    refine ⟨p.relined, (readable_of_parse h).parse file', ?_, ?_⟩
    · exact p.relined_relined
    · exact p.written_relined

/-- Operations in one another, a name that is not spelled in ASCII, and lines in no order. -/
def nestedProgram : Program :=
  ⟨[.declaration ⟨"été", 9⟩ .float (some (.binary (.number "1" .int 4) .add
      (.binary (.symbol "été" 2) .mul (.number "0.5" .float 1) 3) 7)) 5,
    .print ⟨"été", 6⟩ 8], 3⟩

/-- The text of the program is read with a line for each statement; a tree that is read from other
lines is written and read again. -/
theorem parse_written_nested :
    parse "float été = (1 + (été * 0.5));\nprint été;\n" none = .ok ⟨
      [.declaration ⟨"été", 1⟩ .float (some (.binary (.number "1" .int 1) .add
        (.binary (.symbol "été" 1) .mul (.number "0.5" .float 1) 1) 1)) 1,
        .print ⟨"été", 2⟩ 2], 1⟩ ∧
      ∃ p q, parse "float\nété = 1 + été * 0.5; print été;" none = .ok p ∧
        parse p.written none = .ok q ∧ q.relined = p.relined ∧ q.written = p.written := by
  have hname : ReadsAs .identifier "été" := Except.eq_ok_of_toOption (by decide +kernel)
  have hone : ReadsAs .integer "1" := Except.eq_ok_of_toOption (by decide +kernel)
  have hhalf : ReadsAs .decimal "0.5" := Except.eq_ok_of_toOption (by decide +kernel)
  have hreadable : nestedProgram.Readable := by
    simp [nestedProgram, Program.Readable, Stmt.Readable, Stmt.target, Stmt.value?, Expr.Readable,
      Ty.literalKind, hname, hone, hhalf]
  have htext : nestedProgram.written = "float été = (1 + (été * 0.5));\nprint été;\n" := by
    decide +kernel
  obtain ⟨p, hp⟩ := Except.exists_of_isOk
    (x := parse "float\nété = 1 + été * 0.5; print été;" none) (by decide +kernel)
  obtain ⟨q, hq⟩ := parse_written.2 _ none none p hp
  rw [← htext]
  exact ⟨parse_written.1 nestedProgram none hreadable, p, q, hp, hq⟩

end DeskCalc
