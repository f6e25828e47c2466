import DeskCalc.Proofs.Parse.Acceptance

/-!
Where the parser stops. Tokens are viable if a source text that the grammar derives begins with them.
What begins the language of statements is viable, because the missing tokens can be written down
behind the text in front (`viable_of_begins`); a token that the parser refuses makes no tokens of
these kinds viable, because the parser would refuse it wherever it comes (`not_viable_of_refused`).
Main statement: a diagnostic of the parser is the first lexical one or points at the first token that
cannot go on (`parse_error_at_first_stop`).
-/

namespace DeskCalc

open Token (Kind)

namespace Grammar

/-! ### Beginnings of valid programs -/

/-- The tokens, with the end of input behind them, are those of a source text that is a program. -/
def Sentence (tokens : List Token) : Prop :=
  ∃ source p, tokenize source none = .ok tokens ∧ DerivesProgram tokens p

/-- The tokens are the first tokens of a source text that is a program. -/
def Viable (ts : List Token) : Prop := ∃ rest, Sentence (ts ++ rest)

/-- Genuine tokens of one line can be written down on it with blanks between them. -/
theorem exists_cut {n : Nat} {ts : List Token} (h : ∀ t ∈ ts, t.Genuine ∧ t.line = n) :
    ∃ text, Cut n (' ' :: text) ts n := by
  induction ts with
  | nil => exact ⟨[], .blank rfl .nil⟩
  | cons t ts ih =>
    obtain ⟨⟨⟨lexeme, hl⟩, hline⟩, hts⟩ := List.forall_mem_cons.mp h
    obtain ⟨text, htext⟩ := ih hts
    have hends : t.kind.Ends (' ' :: text) := (Token.parts_of_isSpace rfl).ends t.kind text
    have ht : t = Token.mk t.kind n t.text? := hline ▸ rfl
    exact ⟨lexeme ++ ' ' :: text, .blank rfl (.lexeme ht hl hends htext)⟩

theorem sentence_of_cut {text : List Char} {ts : List Token} {m : Nat} {body : List Stmt}
    (hcut : Cut 1 text ts m) (h : DerivesBody ts body) :
    Sentence (ts ++ [⟨.endOfInput, m, none⟩]) := by
  have hsource : Cut 1 (String.ofList text).toList ts m := by simpa using hcut
  have hfirst : ∃ first, first ∈ (ts ++ [Token.mk .endOfInput m none]).head? := by
    cases ts with
    | nil => exact ⟨_, rfl⟩
    | cons t ts => exact ⟨t, rfl⟩
  obtain ⟨first, hfirst⟩ := hfirst
  exact ⟨String.ofList text, ⟨body, first.line⟩, tokenize_of_cut hsource none, ts, _, rfl, rfl, h,
    first, hfirst, rfl⟩

/-- **What begins the language of statements is viable** where a text in front is cut into tokens and
other tokens follow on its last line. -/
theorem viable_of_begins {front : List Char} {ts us : List Token} {n : Nat}
    (hcut : Cut 1 front ts n) (hus : ∀ u ∈ us, u.Genuine ∧ u.line = n)
    (h : Language.Begins DerivesBody (ts ++ us)) : Viable (ts ++ us) := by
  obtain ⟨rest, body, hrest, hbody⟩ := h n
  obtain ⟨text, htext⟩ := exists_cut (List.forall_mem_append.mpr ⟨hus, hrest⟩)
  have hall : Cut 1 (front ++ ' ' :: text) (ts ++ us ++ rest) n := by
    rw [List.append_assoc]
    exact .append (Token.parts_of_isSpace rfl) hcut htext
  refine ⟨rest ++ [⟨.endOfInput, n, none⟩], ?_⟩
  rw [← List.append_assoc]
  exact sentence_of_cut hall hbody

/-- Before the end of input a sentence has genuine tokens, which are those of statements. -/
theorem Sentence.body {tokens : List Token} (h : Sentence tokens) :
    ∃ ts last body, tokens = ts ++ [last] ∧ last.kind = .endOfInput ∧ (∀ t ∈ ts, t.Genuine) ∧
      DerivesBody ts body := by
  obtain ⟨source, p, htokens, ts, last, rfl, hlast, hbody, -⟩ := h
  exact ⟨ts, last, p.body, rfl, hlast, genuine_of_tokenize htokens, hbody⟩

end Grammar

namespace Parse

open Grammar

/-! ### What is refused is not viable -/

/-- There is a cursor with given tokens ahead and the end of input behind them. -/
theorem exists_passes {ts : List Token} (h : ∀ t ∈ ts, t.Genuine) :
    ∃ c c' : Cursor, c.Proper ∧ Passes c ts c' ∧ c'.current.kind = .endOfInput := by
  have hgenuine : Feed.Genuine ⟨ts.map .ok, 1⟩ := by
    refine ⟨fun t ht => ?_, fun d hd => ?_⟩
    · obtain ⟨t', hmem, heq⟩ := List.mem_map.mp ht
      cases heq
      exact h t hmem
    · obtain ⟨t', -, heq⟩ := List.mem_map.mp hd
      cases heq
  have hnil : (Feed.mk (ts.map .ok) 1).results = ts.map .ok ++ [] := (List.append_nil _).symm
  obtain ⟨next, rest, hnext⟩ := Feed.exists_next hnil (by simp)
  let c : Cursor := ⟨[], next, rest, defaultFile, .standard⟩
  have hon : c.On ⟨ts.map .ok, 1⟩ := ⟨hnext, hgenuine, rfl⟩
  obtain ⟨c', hp, hcurrent⟩ := Passes.to_end hon rfl
  exact ⟨c, c', ⟨_, hon⟩, hp, congrArg Token.kind hcurrent⟩

/-- The end of input ends tokens that others continue, or ends just these. -/
theorem append_end_cases {vs rest ts : List Token} {v last : Token}
    (h : vs ++ [v] ++ rest = ts ++ [last]) :
    (∃ more, ts = vs ++ [v] ++ more) ∨ ts = vs ∧ v = last := by
  rcases List.eq_nil_or_concat rest with rfl | ⟨more, w, rfl⟩
  · rw [List.append_nil] at h
    obtain ⟨rfl, hv⟩ := List.append_inj' h rfl
    exact .inr ⟨rfl, List.singleton_inj.mp hv⟩
  · rw [List.concat_eq_append, ← List.append_assoc] at h
    obtain ⟨hts, -⟩ := List.append_inj' h rfl
    exact .inl ⟨more, hts.symm⟩

/-- Where a token is refused no statements go on with a token of its kind, and none end if it is the
end of input. -/
theorem not_derives_of_refused {c stop : Cursor} {ts : List Token} {cause : Cause}
    (hc : c.Proper) (hp : Passes c ts stop)
    (h : Answers statements ts stop.current (refuse cause)) {body : List Stmt} :
    (stop.current.kind = .endOfInput → ¬DerivesBody ts body) ∧
      ∀ more : List Token, (∀ t ∈ more, t.Genuine) → stop.current.kind ≠ .endOfInput →
        ¬DerivesBody (ts ++ stop.current :: more) body := by
  constructor
  · intro he hbody
    have hok := hbody.answers he c stop hc hp rfl
    rw [h c stop hc hp rfl] at hok
    cases hok
  · intro more hmore hne hbody
    have hgenuine : ∀ t ∈ ts ++ stop.current :: more, t.Genuine := by
      obtain ⟨f, hf⟩ := hp.proper hc
      refine List.forall_mem_append.mpr ⟨hp.genuine hc, ?_⟩
      exact List.forall_mem_cons.mpr ⟨hf.genuine_current hne, hmore⟩
    obtain ⟨d, d', hd, hpasses, hend⟩ := exists_passes hgenuine
    have hok := hbody.answers hend d d' hd hpasses rfl
    obtain ⟨between, hts, hrest⟩ := hpasses.split
    rw [h d between hd hts hrest.current_eq] at hok
    cases hok

/-- **What the parser refuses is not viable**: no program begins with tokens of these kinds. -/
theorem not_viable_of_refused {c stop : Cursor} {ts us : List Token} {cause : Cause}
    (hc : c.Proper) (hp : Passes c ts stop)
    (h : Answers statements ts stop.current (refuse cause))
    (hus : us.map Token.kind = (ts ++ [stop.current]).map Token.kind) : ¬Viable us := by
  rintro ⟨rest, hsentence⟩
  obtain ⟨tokens, last, body, heq, hlast, hgenuine, hbody⟩ := hsentence.body
  rw [List.map_append] at hus
  obtain ⟨vs, ws, rfl, hvs, hws⟩ := List.map_eq_append_iff.mp hus
  obtain ⟨v, rfl, hv⟩ := eq_singleton_of_kinds hws
  obtain ⟨more, rfl⟩ | ⟨rfl, rfl⟩ := append_end_cases heq
  · have hne : stop.current.kind ≠ .endOfInput := hv ▸ (hgenuine v (by simp)).ne_endOfInput
    obtain ⟨body', hbody'⟩ := hbody.of_kinds (ts ++ stop.current :: more) (by simp [hvs, hv])
    refine (not_derives_of_refused hc hp h).2 more (fun t ht => ?_) hne hbody'
    exact hgenuine t (List.mem_append_right _ ht)
  · obtain ⟨body', hbody'⟩ := hbody.of_kinds ts hvs.symm
    exact (not_derives_of_refused hc hp h).1 (hv ▸ hlast) hbody'

/-! ### Where the parser stops -/

variable {source : String} {file : Option String} {ts : List Token} {d : Diagnostic}
  {more : List (Except Diagnostic Token)}

theorem viable_of_results
    (h : (Scanner.ofSource source file).feed.results = ts.map .ok ++ more)
    (hb : Language.Begins DerivesBody ts) : Viable ts := by
  obtain ⟨front, back, n, -, hcut⟩ := Scanner.cut_of_feed h
  have hviable : Viable (ts ++ []) := viable_of_begins hcut (by simp) (by simpa using hb)
  rwa [List.append_nil] at hviable

/-- A refusal names a kind that would have been viable, or says something about the token. -/
theorem viable_of_blames {found : Kind} {cause : Cause}
    (h : (Scanner.ofSource source file).feed.results = ts.map .ok ++ more)
    (hblame : Language.Blames DerivesBody ts found cause) :
    (∃ u : Token, cause = .unexpectedToken u.kind found ∧ Viable (ts ++ [u])) ∨
      ∃ message, cause = .unexpectedTokenDetailed found message := by
  cases hblame with
  | @expected kind hne hb =>
    obtain ⟨front, back, n, -, hcut⟩ := Scanner.cut_of_feed h
    obtain ⟨u, rfl, hline, hgenuine⟩ := Token.exists_genuine hne n
    exact .inl ⟨u, rfl, viable_of_begins hcut (by simpa using ⟨hgenuine, hline⟩) (hb u rfl)⟩
  | @detailed message => exact .inr ⟨message, rfl⟩

/-- A diagnostic among the results is lexical and is what a call of the scanner gives, after those
that give the tokens in front of it. -/
theorem stops_at_diagnostic
    (h : (Scanner.ofSource source file).feed.results = ts.map .ok ++ .error d :: more)
    (hb : Language.Begins DerivesBody ts) :
    (∀ i (hi : i < ts.length), (Scanner.ofSource source file).result i = .ok ts[i]) ∧ Viable ts ∧
      (Scanner.ofSource source file).result ts.length = .error d ∧ d.stage = .lexical := by
  obtain ⟨hbefore, hnext⟩ := Scanner.result_of_results h
  have hmem : .error d ∈ (Scanner.ofSource source file).feed.results := by
    rw [h]
    simp
  exact ⟨hbefore, viable_of_results h hb, hnext, Scanner.stage_of_mem_feed hmem⟩

/-- A cursor behind some tokens stands on what the next call of the scanner gives. -/
theorem stops_at_token {c stop : Cursor} (hc : c.On (Scanner.ofSource source file).feed)
    (hp : Passes c ts stop) :
    ∃ more, (Scanner.ofSource source file).feed.results = ts.map .ok ++ more ∧
      (∀ i (hi : i < ts.length), (Scanner.ofSource source file).result i = .ok ts[i]) ∧
      (Scanner.ofSource source file).result ts.length = .ok stop.current := by
  obtain ⟨f', hon', hr, hline⟩ := hp.results hc
  obtain ⟨hbefore, hnext⟩ := Scanner.result_of_results hr
  refine ⟨_, hr, hbefore, ?_⟩
  rw [hnext, ← hon'.head_results, Feed.last, Feed.last, hline]

end Parse

open Grammar in
/-- **Parse errors are reported at the first token that cannot continue.** Where a source text is
refused some calls of the scanner give viable tokens, and the next call either gives the diagnostic,
which is lexical, or a token that the diagnostic points at: no program begins with tokens of these
kinds up to that token, and a token of the kind that the diagnostic expects, if it expects one, is
viable in its place. -/
theorem parse_error_at_first_stop {source : String} {file : Option String} {d : Diagnostic}
    (h : parse source file = .error d) :
    ∃ ts : List Token,
      (∀ i (hi : i < ts.length), (Scanner.ofSource source file).result i = .ok ts[i]) ∧
      Viable ts ∧
      ((Scanner.ofSource source file).result ts.length = .error d ∧ d.stage = .lexical ∨
        ∃ t, (Scanner.ofSource source file).result ts.length = .ok t ∧
          (∀ us : List Token, us.map Token.kind = (ts ++ [t]).map Token.kind → ¬Viable us) ∧
          d.line = t.line ∧ d.file = file.getD defaultFile ∧
          ((∃ u : Token, d.cause = .unexpectedToken u.kind t.kind ∧ Viable (ts ++ [u])) ∨
            ∃ message, d.cause = .unexpectedTokenDetailed t.kind message)) := by
  cases hc : Cursor.ofSource source file with
  | error e =>
    have hd : e = d := by
      unfold parse Parse.run at h
      rw [hc] at h
      exact Except.error.inj h
    obtain ⟨more, hr⟩ := Cursor.results_of_ofSource_error hc
    rw [hd] at hr
    have hresults : (Scanner.ofSource source file).feed.results = [].map .ok ++ .error d :: more :=
      hr
    obtain ⟨hbefore, hviable, hstop⟩ :=
      Parse.stops_at_diagnostic hresults (Parse.readsBelow_statements 0).begins
    exact ⟨[], hbefore, hviable, .inl hstop⟩
  | ok c =>
    have hon := Cursor.on_ofSource hc
    have hfile : c.file = file.getD defaultFile := Cursor.file_ofSource hc
    rw [Parse.parse_of_ofSource hc] at h
    cases Parse.reads_statements ⟨_, hon⟩ with
    | @read ts body c' hp _ ha =>
      rw [ha c c' ⟨_, hon⟩ hp rfl] at h
      cases h
    | @refused ts stop cause hp hb hblame ha =>
      rw [ha c stop ⟨_, hon⟩ hp rfl] at h
      obtain rfl : stop.diagnostic cause = d := Except.error.inj h
      obtain ⟨more, hr, hbefore, hstop⟩ := Parse.stops_at_token hon hp
      refine ⟨ts, hbefore, Parse.viable_of_results hr hb, .inr ?_⟩
      refine ⟨stop.current, hstop, ?_, rfl, ?_, ?_⟩
      · exact fun us hus => Parse.not_viable_of_refused ⟨_, hon⟩ hp ha hus
      · exact hp.file_eq.trans hfile
      · exact Parse.viable_of_blames hr hblame
    | @broken ts stop e stop' hp hb hne ha hx =>
      rw [hx] at h
      obtain rfl : e = d := Except.error.inj h
      obtain ⟨f', hon', hr, -⟩ := hp.results hon
      obtain ⟨more, hmore⟩ := hon'.results_of_advance_error hne ha
      have hresults : (Scanner.ofSource source file).feed.results =
          (ts ++ [stop.current]).map .ok ++ .error e :: more := by
        rw [hr, hmore]
        simp
      obtain ⟨hbefore, hviable, hstop⟩ := Parse.stops_at_diagnostic hresults hb
      exact ⟨ts ++ [stop.current], hbefore, hviable, .inl hstop⟩

open Grammar in
/-- A statement on the next line cannot go on with a value, and a semicolon can. -/
theorem parse_error_at_first_stop_semicolon :
    parse "int x = (1 + 2)\nprint x;" none =
        .error ⟨.unexpectedToken .semicolon .print, 2, "shell"⟩ ∧
      ∃ (ts : List Token) (t u : Token), Viable ts ∧ t.kind = .print ∧ ¬Viable (ts ++ [t]) ∧
        u.kind = .semicolon ∧ Viable (ts ++ [u]) := by
  have hparse : parse "int x = (1 + 2)\nprint x;" none =
      .error ⟨.unexpectedToken .semicolon .print, 2, "shell"⟩ :=
    Except.eq_error_of_failure? (by decide +kernel)
  refine ⟨hparse, ?_⟩
  obtain ⟨ts, -, hviable, ⟨-, hstage⟩ | ⟨t, -, hstop, -, -, ⟨u, hcause, hu⟩ | ⟨message, hcause⟩⟩⟩ :=
    parse_error_at_first_stop hparse
  · cases hstage
  · obtain ⟨hsemicolon, hprint⟩ := Cause.unexpectedToken.inj hcause
    exact ⟨ts, t, u, hviable, hprint.symm, hstop _ rfl, hsemicolon.symm, hu⟩
  · cases hcause

end DeskCalc
