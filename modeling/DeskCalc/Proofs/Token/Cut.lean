import DeskCalc.Proofs.Outcome
import DeskCalc.Proofs.Token.Next
import DeskCalc.Token.Feed

/-!
How a whole text is cut into tokens: blanks, and lexemes each of which ends where what follows cannot
make it longer. Main statements: a text that is cut gives its tokens and nothing else
(`feed_of_cut`), the tokens that a scanner gives before anything else come from a text in front that
is cut into them (`cut_of_feed`), and a character that parts tokens parts what stands on either side
of it (`Cut.append`).
-/

namespace DeskCalc

open Token (Lexeme Kind)

/-! ### Texts that are cut -/

/-- The text, which begins on the first line, is cut into the tokens and ends on the second line. -/
inductive Cut : Nat → List Char → List Token → Nat → Prop
  | nil {n} : Cut n [] [] n
  | blank {n c cs ts m} :
      Token.isSpace c = true → Cut (n + [c].count '\n') cs ts m → Cut n (c :: cs) ts m
  | token {n lexeme kind text? rest ts m} :
      Lexeme lexeme kind text? → kind.Ends rest → Cut n rest ts m →
      Cut n (lexeme ++ rest) (⟨kind, n, text?⟩ :: ts) m

namespace Cut

theorem blanks {n m : Nat} {bs cs : List Char} {ts : List Token}
    (hb : ∀ c ∈ bs, Token.isSpace c = true) (h : Cut (n + bs.count '\n') cs ts m) :
    Cut n (bs ++ cs) ts m := by
  induction bs generalizing n with
  | nil => exact h
  | cons c bs ih =>
    obtain ⟨hc, hb⟩ := List.forall_mem_cons.mp hb
    refine .blank hc (ih hb ?_)
    rw [Nat.add_assoc, ← List.count_append]
    exact h

/-- Blanks behind a text add nothing but lines. -/
theorem append_blanks {n m : Nat} {cs bs : List Char} {ts : List Token} (h : Cut n cs ts m)
    (hb : ∀ c ∈ bs, Token.isSpace c = true) : Cut n (cs ++ bs) ts (m + bs.count '\n') := by
  induction h with
  | nil => simpa using Cut.blanks hb .nil
  | blank hs _ ih => exact .blank hs ih
  | @token n lexeme kind text? rest ts m hl he _ ih =>
    rw [List.append_assoc]
    refine .token hl ?_ ih
    cases rest with
    | nil => exact fun c hc => Token.parts_of_isSpace (hb c (List.mem_of_mem_head? hc)) kind
    | cons d rest => exact he

/-- A text without characters has no tokens. -/
theorem eq_nil {n m : Nat} {ts : List Token} (h : Cut n [] ts m) : ts = [] := by
  generalize hcs : ([] : List Char) = cs at h
  cases h with
  | nil => rfl
  | blank => cases hcs
  | token hl => exact absurd (List.append_eq_nil_iff.mp hcs.symm).1 hl.ne_nil

/-- A token of one line, and what follows on the same line. -/
theorem lexeme {n m : Nat} {lexeme rest : List Char} {kind : Kind} {text? : Option String}
    {ts : List Token} {t : Token} (ht : t = ⟨kind, n, text?⟩) (hl : Lexeme lexeme kind text?)
    (he : kind.Ends rest) (h : Cut n rest ts m) : Cut n (lexeme ++ rest) (t :: ts) m :=
  ht ▸ .token hl he h

/-- **A character that parts tokens parts two texts**: each is cut as it is alone. -/
theorem append {n k m : Nat} {c : Char} {front back : List Char} {ts us : List Token}
    (hc : Token.Parts c) (h : Cut n front ts k) (hb : Cut k (c :: back) us m) :
    Cut n (front ++ c :: back) (ts ++ us) m := by
  induction h with
  | nil => exact hb
  | blank hs _ ih => exact .blank hs (ih hb)
  | @token n lexeme kind text? rest ts k hl he _ ih =>
    rw [List.append_assoc]
    refine .token hl ?_ (ih hb)
    cases rest with
    | nil => exact hc.ends kind back
    | cons d rest => exact he

end Cut

/-! ### What a scanner makes of a text -/

namespace Scanner

theorem feed_of_next {s s' : Scanner} (h : s.next = s'.next) : s.feed = s'.feed := by
  rw [feed, feed, h]

theorem feed_of_token {s s' : Scanner} {t : Token} (h : s.next = (.ok t, s'))
    (ht : t.kind ≠ .endOfInput) : s.feed = s'.feed.cons (.ok t) := by
  rw [feed]
  split
  · rename_i hn
    rw [h] at hn
    cases hn
    rw [dif_neg ht]
  · rename_i hn
    rw [h] at hn
    cases hn

theorem feed_of_end {s s' : Scanner} {t : Token} (h : s.next = (.ok t, s'))
    (ht : t.kind = .endOfInput) : s.feed = ⟨[], t.line⟩ := by
  rw [feed]
  split
  · rename_i hn
    rw [h] at hn
    cases hn
    rw [dif_pos ht]
  · rename_i hn
    rw [h] at hn
    cases hn

theorem feed_of_error {s s' : Scanner} {d : Diagnostic} (h : s.next = (.error d, s')) :
    s.feed = s'.feed.cons (.error d) := by
  rw [feed]
  split
  · rename_i hn
    rw [h] at hn
    cases hn
  · rename_i hn
    rw [h] at hn
    cases hn
    rfl

/-- **A text that is cut gives its tokens**, and then the end of input on its last line. -/
theorem feed_of_cut {s : Scanner} {cs : List Char} {ts : List Token} {m : Nat}
    (h : Cut s.line cs ts m) (hs : s.reader.chars = cs) : s.feed = ⟨ts.map .ok, m⟩ := by
  generalize hn : s.line = n at h
  induction h generalizing s with
  | nil =>
    rw [feed_of_end (next_nil hs) rfl, hn]
    rfl
  | @blank n c cs ts m hc _ ih =>
    have hspace : ∀ d ∈ [c], Token.isSpace d = true := by simpa using hc
    obtain ⟨r, hnext, hr⟩ := next_blanks hspace hs
    rw [feed_of_next hnext]
    exact ih (s := ⟨r, s.line + [c].count '\n', s.file⟩) hr (by rw [hn])
  | @token n lexeme kind text? rest ts m hl he _ ih =>
    obtain ⟨r, hnext, hr⟩ := next_of_lexeme hl he hs
    have hkind : kind ≠ .endOfInput := hl.ne_endOfInput
    rw [feed_of_token hnext hkind, ih (s := { s with reader := r }) hr hn, hn]
    rfl

/-- Tokens come from a text that is cut into them, and the scanner that stands behind that text gives
what follows them. -/
theorem front_of_feed {s : Scanner} {ts : List Token} {more : List (Except Diagnostic Token)}
    (h : s.feed.results = ts.map .ok ++ more) :
    ∃ (front : List Char) (s' : Scanner), s.reader.chars = front ++ s'.reader.chars ∧
      Cut s.line front ts s'.line ∧ s'.feed.results = more := by
  induction ts generalizing s with
  | nil => exact ⟨[], s, rfl, .nil, h⟩
  | cons t ts ih =>
    rcases hn : s.next with ⟨r, s'⟩
    cases r with
    | error d =>
      rw [feed_of_error hn] at h
      cases h
    | ok u =>
      by_cases hu : u.kind = .endOfInput
      · rw [feed_of_end hn hu] at h
        cases h
      · rw [feed_of_token hn hu] at h
        simp only [Feed.cons, List.map_cons, List.cons_append, List.cons.injEq] at h
        obtain ⟨htu, hrest⟩ := h
        cases htu
        obtain ⟨front, behind, hchars, hcut, hmore⟩ := ih hrest
        obtain ⟨blanks, lexeme, hb, hs, hl, hends, hline, hkept⟩ := lexeme_of_next hn hu
        refine ⟨blanks ++ (lexeme ++ front), behind, ?_, Cut.blanks hb ?_, hmore⟩
        · rw [hs, hchars]
          simp only [List.append_assoc]
        · rw [hchars] at hends
          rw [← hline]
          exact .token hl hends.front (hkept ▸ hcut)

/-- **Tokens come from a text that is cut into them**: the text in front, up to the last of them. -/
theorem cut_of_feed {s : Scanner} {ts : List Token} {more : List (Except Diagnostic Token)}
    (h : s.feed.results = ts.map .ok ++ more) :
    ∃ front back n, s.reader.chars = front ++ back ∧ Cut s.line front ts n := by
  obtain ⟨front, behind, hchars, hcut, -⟩ := front_of_feed h
  exact ⟨front, behind.reader.chars, behind.line, hchars, hcut⟩

theorem blank_of_feed {s : Scanner} (h : s.feed.results = []) :
    ∀ c ∈ s.reader.chars, Token.isSpace c = true := by
  rcases hn : s.next with ⟨r, s'⟩
  cases r with
  | error d =>
    rw [feed_of_error hn] at h
    cases h
  | ok t =>
    by_cases ht : t.kind = .endOfInput
    · exact (next_end_blank hn ht).1
    · rw [feed_of_token hn ht] at h
      cases h

/-- **A text that has nothing but tokens is cut into them**, to its end. -/
theorem cut_of_tokens {s : Scanner} {ts : List Token} (h : s.feed.results = ts.map .ok) :
    ∃ n, Cut s.line s.reader.chars ts n := by
  obtain ⟨front, behind, hchars, hcut, hend⟩ := front_of_feed (h.trans (List.append_nil _).symm)
  have hblank := blank_of_feed hend
  rw [hchars]
  exact ⟨_, hcut.append_blanks hblank⟩

/-- **A text that is cut gives its tokens before anything else**, if what stands behind it does not
make the last of them longer. -/
theorem feed_front {s : Scanner} {front back : List Char} {ts : List Token} {m : Nat}
    (h : Cut s.line front ts m) (hs : s.reader.chars = front ++ back)
    (hlast : ∀ t ∈ ts.getLast?, t.kind.Ends back) :
    ∃ more, s.feed.results = ts.map .ok ++ more := by
  generalize hn : s.line = n at h
  induction h generalizing s with
  | nil => exact ⟨s.feed.results, rfl⟩
  | @blank n c cs ts m hc _ ih =>
    have hspace : ∀ d ∈ [c], Token.isSpace d = true := by simpa using hc
    obtain ⟨r, hnext, hr⟩ := next_blanks hspace hs
    rw [feed_of_next hnext]
    exact ih (s := ⟨r, s.line + [c].count '\n', s.file⟩) hr hlast (by rw [hn])
  | @token n lexeme kind text? rest ts m hl he hrest ih =>
    have hends : kind.Ends (rest ++ back) := by
      cases rest with
      | nil =>
        obtain rfl := hrest.eq_nil
        exact hlast _ rfl
      | cons d rest => exact he
    rw [List.append_assoc] at hs
    obtain ⟨r, hnext, hr⟩ := next_of_lexeme hl hends hs
    have hbehind : ∀ t ∈ ts.getLast?, t.kind.Ends back := by
      intro t ht
      refine hlast t ?_
      rw [Option.mem_def] at ht ⊢
      rw [List.getLast?_cons, ht]
      rfl
    obtain ⟨more, hmore⟩ := ih (s := { s with reader := r }) hr hbehind hn
    refine ⟨more, ?_⟩
    rw [feed_of_token hnext hl.ne_endOfInput, Feed.cons, hmore, hn]
    rfl

/-! ### Everything that a scanner gives -/

/-- What holds of every answer before the end holds of all results. -/
theorem forall_mem_feed {P : Except Diagnostic Token → Prop} {s : Scanner}
    (hok : ∀ (s s' : Scanner) t, s.next = (.ok t, s') → t.kind ≠ .endOfInput → P (.ok t))
    (herror : ∀ (s s' : Scanner) d, s.next = (.error d, s') → P (.error d)) :
    ∀ r ∈ s.feed.results, P r := by
  fun_induction feed s with
  | case1 s t s' hn hk =>
    intro r hr
    cases hr
  | case2 s t s' hn hk ih => exact List.forall_mem_cons.mpr ⟨hok s s' t hn hk, ih⟩
  | case3 s d s' hn ih => exact List.forall_mem_cons.mpr ⟨herror s s' d hn, ih⟩

theorem genuine_of_mem_feed {s : Scanner} {t : Token} (h : .ok t ∈ s.feed.results) :
    t.Genuine := by
  have hall : ∀ r ∈ s.feed.results, ∀ t, r = .ok t → t.Genuine := by
    refine forall_mem_feed ?_ ?_
    · rintro s s' _ hn hk t ⟨⟩
      obtain ⟨-, lexeme, -, -, hl, -⟩ := lexeme_of_next hn hk
      exact ⟨lexeme, hl⟩
    · rintro _ _ _ _ _ ⟨⟩
  exact hall _ h t rfl

theorem stage_of_mem_feed {s : Scanner} {d : Diagnostic} (h : .error d ∈ s.feed.results) :
    d.stage = .lexical := by
  have hall : ∀ r ∈ s.feed.results, ∀ d, r = .error d → d.stage = .lexical := by
    refine forall_mem_feed ?_ ?_
    · rintro _ _ _ _ _ _ ⟨⟩
    · rintro s s' _ hn d ⟨⟩
      exact stage_of_next hn
  exact hall _ h d rfl

/-! ### Call by call -/

/-- The scanner after so many calls. -/
def after (s : Scanner) : Nat → Scanner
  | 0 => s
  | n + 1 => s.next.2.after n

/-- What the call gives, the calls counted from zero. -/
def result (s : Scanner) (n : Nat) : Except Diagnostic Token :=
  (s.after n).next.1

theorem after_succ (s : Scanner) (n : Nat) : s.after (n + 1) = (s.after n).next.2 := by
  induction n generalizing s with
  | zero => rfl
  | succ n ih => exact ih s.next.2

theorem after_of_end {s : Scanner} (h : s.reader.chars = []) (n : Nat) : s.after n = s := by
  induction n with
  | zero => rfl
  | succ n ih => rw [after, next_nil h, ih]

/-- **The calls give the results in order**, and then the end of input for ever. -/
theorem result_eq (s : Scanner) (n : Nat) :
    s.result n = s.feed.results[n]?.getD (.ok s.feed.last) := by
  induction n generalizing s with
  | zero =>
    rcases hn : s.next with ⟨r, s'⟩
    have hfst : s.result 0 = r := congrArg Prod.fst hn
    cases r with
    | error d => rw [hfst, feed_of_error hn, Feed.cons, List.getElem?_cons_zero, Option.getD_some]
    | ok t =>
      by_cases ht : t.kind = .endOfInput
      · obtain ⟨rfl, -⟩ := next_end hn ht
        rw [hfst, feed_of_end hn rfl]
        rfl
      · rw [hfst, feed_of_token hn ht, Feed.cons, List.getElem?_cons_zero, Option.getD_some]
  | succ n ih =>
    rcases hn : s.next with ⟨r, s'⟩
    have hshift : s.result (n + 1) = s'.result n := by
      unfold result
      rw [after, hn]
    cases r with
    | error d =>
      rw [hshift, ih, feed_of_error hn]
      rfl
    | ok t =>
      by_cases ht : t.kind = .endOfInput
      · obtain ⟨rfl, hs'⟩ := next_end hn ht
        rw [hshift, result, after_of_end hs', next_nil hs', feed_of_end hn rfl]
        rfl
      · rw [hshift, ih, feed_of_token hn ht]
        rfl

/-- Tokens in front of all results are what the first calls give, and the call after them gives the
next result. -/
theorem result_of_results {s : Scanner} {ts : List Token} {more : List (Except Diagnostic Token)}
    (h : s.feed.results = ts.map .ok ++ more) :
    (∀ i (hi : i < ts.length), s.result i = .ok ts[i]) ∧
      s.result ts.length = more.head?.getD (.ok s.feed.last) := by
  constructor
  · intro i hi
    rw [result_eq, h, List.getElem?_append_left (by simpa using hi), List.getElem?_map,
      List.getElem?_eq_getElem hi]
    rfl
  · rw [result_eq, h, List.getElem?_append_right (by simp), List.length_map, Nat.sub_self,
      List.head?_eq_getElem?]

end Scanner

/-! ### Tokens of a source text -/

theorem Feed.tokens_eq_ok_iff {f : Feed} {ts : List Token} :
    f.tokens = .ok ts ↔ ∃ body, f.results = body.map .ok ∧ ts = body ++ [f.last] := by
  have hgo : ∀ (results : List (Except Diagnostic Token)) (ts : List Token),
      tokens.go f results = .ok ts ↔ ∃ body, results = body.map .ok ∧ ts = body ++ [f.last] := by
    intro results
    induction results with
    | nil =>
      intro ts
      constructor
      · intro h
        cases h
        exact ⟨[], rfl, rfl⟩
      · rintro ⟨body, hb, rfl⟩
        cases body with
        | nil => rfl
        | cons t body => cases hb
    | cons r results ih =>
      intro ts
      cases r with
      | error d =>
        constructor
        · intro h
          cases h
        · rintro ⟨body, hb, rfl⟩
          cases body <;> cases hb
      | ok t =>
        rw [tokens.go, Except.map_eq_ok_iff]
        constructor
        · rintro ⟨us, hus, rfl⟩
          obtain ⟨body, rfl, rfl⟩ := (ih us).mp hus
          exact ⟨t :: body, rfl, rfl⟩
        · rintro ⟨body, hb, rfl⟩
          cases body with
          | nil => cases hb
          | cons u body =>
            cases hb
            exact ⟨body ++ [f.last], (ih _).mpr ⟨body, rfl, rfl⟩, rfl⟩
  exact hgo f.results ts

/-- **A text that is cut is a source text of its tokens.** -/
theorem tokenize_of_cut {source : String} {ts : List Token} {m : Nat}
    (h : Cut 1 source.toList ts m) (file : Option String) :
    tokenize source file = .ok (ts ++ [⟨.endOfInput, m, none⟩]) := by
  have hfeed : (Scanner.ofSource source file).feed = ⟨ts.map .ok, m⟩ :=
    Scanner.feed_of_cut (s := Scanner.ofSource source file) h rfl
  rw [tokenize, Feed.tokens_eq_ok_iff, hfeed]
  exact ⟨ts, rfl, rfl⟩

/-- Before the end of input a source text has genuine tokens. -/
theorem genuine_of_tokenize {source : String} {file : Option String} {ts : List Token}
    {last : Token} (h : tokenize source file = .ok (ts ++ [last])) : ∀ t ∈ ts, t.Genuine := by
  intro t ht
  obtain ⟨body, hresults, heq⟩ := Feed.tokens_eq_ok_iff.mp h
  obtain ⟨rfl, -⟩ := List.append_inj' heq rfl
  exact Scanner.genuine_of_mem_feed (hresults ▸ List.mem_map_of_mem ht)

end DeskCalc
