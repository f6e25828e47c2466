import DeskCalc.Proofs.Parse.Acceptance

/-!
A source text in front of another one, with nothing between them. Statements end in semicolons, and
no token can be formed across a semicolon; so the tokens of the text in front stand in front of all
tokens (`results_append`), and the tree of the text in front is the front of the whole tree
(`parse_append`). Only the line of a program without statements is not kept: it is the line on which
the text ended.
-/

namespace DeskCalc

open Token (Kind)

namespace Grammar

/-! ### The last token -/

theorem DerivesStmt.last {ts : List Token} {s : Stmt} (h : DerivesStmt ts s) :
    ∃ front last, ts = front ++ [last] ∧ last.kind = .semicolon := by
  cases h with
  | @declaration ty first name last ts _ _ _ _ hl => exact ⟨first :: name :: ts, last, rfl, hl⟩
  | @print first name last _ _ hl => exact ⟨[first, name], last, rfl, hl⟩
  | @assignment name sign last ts _ _ _ _ hl => exact ⟨name :: sign :: ts, last, rfl, hl⟩

theorem DerivesBody.last {ts : List Token} {body : List Stmt} (h : DerivesBody ts body) :
    ∀ last ∈ ts.getLast?, last.kind = .semicolon := by
  induction h with
  | nil =>
    intro last hl
    cases hl
  | @cons ts us s body hs _ ih =>
    intro last hl
    rw [Option.mem_def, List.getLast?_append] at hl
    cases hus : us.getLast? with
    | some u =>
      rw [hus] at hl
      exact ih last (hus.trans hl)
    | none =>
      obtain ⟨front, semicolon, rfl, hsemicolon⟩ := hs.last
      rw [hus, List.getLast?_append] at hl
      cases hl
      exact hsemicolon

/-- Statements have a token if there is one of them. -/
theorem DerivesBody.ne_nil {ts : List Token} {body : List Stmt} (h : DerivesBody ts body)
    (hne : body ≠ []) : ts ≠ [] := by
  cases h with
  | nil => exact absurd rfl hne
  | cons hs _ =>
    obtain ⟨first, rest, rfl, -⟩ := hs.head
    exact List.cons_ne_nil _ _

/-- Nothing makes the last token of statements longer. -/
theorem DerivesBody.ends {ts : List Token} {body : List Stmt} (h : DerivesBody ts body)
    (back : List Char) : ∀ last ∈ ts.getLast?, last.kind.Ends back := by
  intro last hl c _
  rw [h.last last hl]
  rfl

end Grammar

namespace Parse

open Grammar

/-! ### More text behind statements -/

/-- The tokens of statements are the first ones however the text goes on. -/
theorem results_append {front : String} {file : Option String} {ts : List Token}
    {body : List Stmt} (hts : (Scanner.ofSource front file).feed.results = ts.map .ok)
    (hbody : DerivesBody ts body) (back : String) :
    ∃ more, (Scanner.ofSource (front ++ back) file).feed.results = ts.map .ok ++ more := by
  obtain ⟨n, hcut⟩ := Scanner.cut_of_tokens hts
  have hchars : (Scanner.ofSource (front ++ back) file).reader.chars =
      front.toList ++ back.toList := String.toList_append
  exact Scanner.feed_front hcut hchars (hbody.ends back.toList)

/-- **The tree of a text is the front of the tree of a longer text**, from the same line if it has a
statement. -/
theorem parse_append {front back : String} {file : Option String} {p q : Program}
    (hp : parse front file = .ok p) (hq : parse (front ++ back) file = .ok q) :
    (∃ more, q.body = p.body ++ more) ∧ (p.body ≠ [] → q.line = p.line) := by
  obtain ⟨tokens, ht, ts, last, rfl, -, hbody, first, hfirst, hline⟩ := derives_of_parse hp
  obtain ⟨ts', hresults, htokens⟩ := Feed.tokens_eq_ok_iff.mp ht
  obtain ⟨rfl, -⟩ := List.append_inj' htokens rfl
  obtain ⟨more, hmore⟩ := results_append hresults hbody back
  obtain ⟨whole, hwhole, -⟩ := derives_of_parse hq
  obtain ⟨all, hall, -⟩ := Feed.tokens_eq_ok_iff.mp hwhole
  have hclean : ∀ d, more.head? ≠ some (.error d) := by
    intro d hd
    have hmem : Except.error d ∈ all.map Except.ok := by
      rw [← hall, hmore]
      exact List.mem_append_right _ (List.mem_of_mem_head? hd)
    obtain ⟨t, -, ht⟩ := List.mem_map.mp hmem
    cases ht
  obtain ⟨c, c', hc, hstatements, hqline⟩ := statements_of_parse hq
  have hon := Cursor.on_ofSource hc
  obtain ⟨d, hpasses, -⟩ := Passes.of_results hon hmore hclean
  constructor
  · have hanswer := hbody.answers_before d.current c d ⟨_, hon⟩ hpasses rfl
    rw [hstatements] at hanswer
    change _ = EStateM.bind statements _ d at hanswer
    unfold EStateM.bind at hanswer
    cases hrest : statements d with
    | error e d' =>
      rw [hrest] at hanswer
      cases hanswer
    | ok rest d' =>
      rw [hrest] at hanswer
      exact ⟨rest, (EStateM.Result.ok.inj hanswer).1⟩
  · intro hne
    have hcurrent := hpasses.current_eq
    obtain ⟨t, us, rfl⟩ := List.exists_cons_of_ne_nil (hbody.ne_nil hne)
    cases hfirst
    rw [hqline, hline, hcurrent]
    rfl

end Parse

end DeskCalc
