import DeskCalc.Parse.Cursor
import DeskCalc.Proofs.Token.Cut

/-!
Passing tokens. A proper cursor stands on the first token of a feed that a source text gives, and
the tokens that it passes are the first tokens of that feed (`Passes.results`). A rule answers to
tokens if it does the same at every proper cursor that has them ahead, whatever follows the token
behind them (`Answers`): this is how far a rule looks.
-/

namespace DeskCalc

open Token (Kind)

/-! ### Feeds of source texts -/

/-- Every token is genuine and every diagnostic is about characters. -/
structure Feed.Genuine (f : Feed) : Prop where
  tokens : ∀ t, .ok t ∈ f.results → t.Genuine
  errors : ∀ d, .error d ∈ f.results → d.stage = .lexical

theorem Scanner.genuine_feed (s : Scanner) : s.feed.Genuine :=
  ⟨fun _ => genuine_of_mem_feed, fun _ => stage_of_mem_feed⟩

/-- What a feed gives is the end of input, or its first result. -/
theorem Feed.next_inv {f f' : Feed} {r : Except Diagnostic Token} (h : f.next = (r, f')) :
    f.results = [] ∧ r = .ok f.last ∧ f' = f ∨
      f.results = r :: f'.results ∧ f'.endLine = f.endLine := by
  unfold next at h
  split at h
  · rename_i hr
    obtain ⟨rfl, rfl⟩ := Prod.mk.inj h
    exact .inl ⟨hr, rfl, rfl⟩
  · rename_i r' results hr
    obtain ⟨rfl, rfl⟩ := Prod.mk.inj h
    exact .inr ⟨hr, rfl⟩

/-- Behind tokens the end of input, or something that is no diagnostic, makes the next result a
token. -/
theorem Feed.exists_next {f : Feed} {ts : List Token} {more : List (Except Diagnostic Token)}
    (h : f.results = ts.map .ok ++ more) (hmore : ∀ d, more.head? ≠ some (.error d)) :
    ∃ next rest, f.next = (.ok next, rest) := by
  rcases hn : f.next with ⟨r, rest⟩
  cases r with
  | ok next => exact ⟨next, rest, rfl⟩
  | error d =>
    obtain ⟨-, hd, -⟩ | ⟨hd, -⟩ := next_inv hn
    · cases hd
    · rw [h] at hd
      cases ts with
      | nil => exact absurd (congrArg List.head? hd) (hmore d)
      | cons t ts => cases hd

/-- A token passed: it is the current one, and the next one of the feed takes its place. -/
theorem Parse.advance_eq_ok {c c' : Cursor} {t : Token} (h : Parse.advance c = .ok t c') :
    t = c.current ∧ ∃ next rest, c.feed.next = (.ok next, rest) ∧
      c' = { c with passed := c.current :: c.passed, current := next, feed := rest } := by
  unfold advance at h
  split at h
  · rename_i next rest hn
    cases h
    exact ⟨rfl, next, rest, hn, rfl⟩
  · cases h

/-! ### Proper cursors -/

namespace Cursor

/-- The cursor stands on the first token of the feed and has the rules of the language. -/
structure On (c : Cursor) (f : Feed) : Prop where
  next : f.next = (.ok c.current, c.feed)
  genuine : f.Genuine
  rules : c.rules = .standard

/-- The cursor stands on the first token of some feed that a source text gives. -/
def Proper (c : Cursor) : Prop := ∃ f, c.On f

/-- A source text that has no first token has a diagnostic in its place. -/
theorem results_of_ofSource_error {source : String} {file : Option String} {d : Diagnostic}
    (h : ofSource source file = .error d) :
    ∃ more, (Scanner.ofSource source file).feed.results = .error d :: more := by
  unfold ofSource at h
  generalize (Scanner.ofSource source file).feed = f at h
  rcases hn : f.next with ⟨r, rest⟩
  rw [hn] at h
  obtain rfl := Except.map_eq_error_iff.mp h
  obtain ⟨-, hlast, -⟩ | ⟨hr, -⟩ := Feed.next_inv hn
  · cases hlast
  · exact ⟨rest.results, hr⟩

theorem on_ofSource {source : String} {file : Option String} {c : Cursor}
    (h : ofSource source file = .ok c) : c.On (Scanner.ofSource source file).feed := by
  unfold ofSource at h
  have hgenuine := (Scanner.ofSource source file).genuine_feed
  generalize (Scanner.ofSource source file).feed = f at h hgenuine
  rcases hn : f.next with ⟨r, rest⟩
  rw [hn] at h
  obtain ⟨t, rfl, rfl⟩ := Except.map_eq_ok_iff.mp h
  exact ⟨hn, hgenuine, rfl⟩

theorem file_ofSource {source : String} {file : Option String} {c : Cursor}
    (h : ofSource source file = .ok c) : c.file = file.getD defaultFile := by
  unfold ofSource at h
  obtain ⟨t, -, rfl⟩ := Except.map_eq_ok_iff.mp h
  rfl

namespace On

variable {c c' : Cursor} {f : Feed} {t : Token}

/-- Before the end of input the cursor stands on the first result. -/
theorem results (h : c.On f) (hne : c.current.kind ≠ .endOfInput) :
    f.results = .ok c.current :: c.feed.results ∧ c.feed.endLine = f.endLine := by
  obtain ⟨-, hlast, -⟩ | hr := Feed.next_inv h.next
  · rw [Except.ok.inj hlast] at hne
    exact absurd rfl hne
  · exact hr

/-- At the end of input nothing is left. -/
theorem results_end (h : c.On f) (he : c.current.kind = .endOfInput) :
    f.results = [] ∧ c.current = f.last ∧ c.feed = f := by
  obtain ⟨hr, hlast, hfeed⟩ | ⟨hr, -⟩ := Feed.next_inv h.next
  · exact ⟨hr, Except.ok.inj hlast, hfeed⟩
  · have hmem : .ok c.current ∈ f.results := hr ▸ List.mem_cons_self
    exact absurd he (h.genuine.tokens _ hmem).ne_endOfInput

/-- Where nothing is left the cursor is at the end of input. -/
theorem current_of_nil (h : c.On f) (hf : f.results = []) : c.current = f.last := by
  obtain ⟨-, hlast, -⟩ | ⟨hr, -⟩ := Feed.next_inv h.next
  · exact Except.ok.inj hlast
  · rw [hf] at hr
    cases hr

theorem genuine_current (h : c.On f) (hne : c.current.kind ≠ .endOfInput) : c.current.Genuine := by
  have hmem : .ok c.current ∈ f.results := (h.results hne).1 ▸ List.mem_cons_self
  exact h.genuine.tokens _ hmem

theorem genuine_feed (h : c.On f) (hne : c.current.kind ≠ .endOfInput) : c.feed.Genuine := by
  have hr := (h.results hne).1
  refine ⟨fun t ht => h.genuine.tokens t ?_, fun d hd => h.genuine.errors d ?_⟩
  · exact hr ▸ List.mem_cons_of_mem _ ht
  · exact hr ▸ List.mem_cons_of_mem _ hd

theorem advance (h : c.On f) (hne : c.current.kind ≠ .endOfInput)
    (ha : Parse.advance c = .ok t c') : t = c.current ∧ c'.On c.feed := by
  obtain ⟨rfl, next, rest, hn, rfl⟩ := Parse.advance_eq_ok ha
  exact ⟨rfl, hn, h.genuine_feed hne, h.rules⟩

/-- The next result is the current token. -/
theorem head_results (h : c.On f) : f.results.head?.getD (.ok f.last) = .ok c.current := by
  obtain ⟨hr, hlast, -⟩ | ⟨hr, -⟩ := Feed.next_inv h.next
  · rw [hr]
    exact hlast.symm
  · rw [hr]
    rfl

/-- A token that cannot be passed has a diagnostic behind it. -/
theorem results_of_advance_error {d : Diagnostic} (h : c.On f)
    (hne : c.current.kind ≠ .endOfInput) (ha : Parse.advance c = .error d c') :
    ∃ more, f.results = .ok c.current :: .error d :: more := by
  unfold Parse.advance at ha
  split at ha
  · cases ha
  · rename_i d' rest hn
    cases ha
    obtain ⟨-, hlast, -⟩ | ⟨hr, -⟩ := Feed.next_inv hn
    · cases hlast
    · exact ⟨rest.results, by rw [(h.results hne).1, hr]⟩

end On

end Cursor

/-! ### Passing tokens -/

/-- From the first cursor to the second the tokens are passed, none of which is the end of input. -/
inductive Passes : Cursor → List Token → Cursor → Prop
  | nil {c} : Passes c [] c
  | cons {c c' c'' ts} :
      c.current.kind ≠ .endOfInput → Parse.advance c = .ok c.current c' → Passes c' ts c'' →
      Passes c (c.current :: ts) c''

namespace Passes

variable {c c' c'' d d' : Cursor} {ts us : List Token} {f : Feed}

theorem one (hne : c.current.kind ≠ .endOfInput) (h : Parse.advance c = .ok c.current c') :
    Passes c [c.current] c' :=
  .cons hne h .nil

theorem append (h : Passes c ts c') (h' : Passes c' us c'') : Passes c (ts ++ us) c'' := by
  induction h with
  | nil => exact h'
  | cons hne ha _ ih => exact .cons hne ha (ih h')

theorem split (h : Passes c (ts ++ us) c'') : ∃ c', Passes c ts c' ∧ Passes c' us c'' := by
  induction ts generalizing c with
  | nil => exact ⟨c, .nil, h⟩
  | cons t ts ih =>
    cases h with
    | cons hne ha h =>
      obtain ⟨c', hts, hus⟩ := ih h
      exact ⟨c', .cons hne ha hts, hus⟩

/-- The cursor stood on the first of the tokens that it passed. -/
theorem current_eq (h : Passes c ts c') : c.current = ts.headD c'.current := by
  cases h <;> rfl

theorem file_eq (h : Passes c ts c') : c'.file = c.file := by
  induction h with
  | nil => rfl
  | cons hne ha _ ih =>
    obtain ⟨-, next, rest, -, rfl⟩ := Parse.advance_eq_ok ha
    exact ih

theorem passed_eq (h : Passes c ts c') : c'.passed = ts.reverse ++ c.passed := by
  induction h with
  | nil => rfl
  | cons hne ha _ ih =>
    obtain ⟨-, next, rest, -, rfl⟩ := Parse.advance_eq_ok ha
    rw [ih, List.reverse_cons, List.append_assoc]
    rfl

theorem ne_endOfInput (h : Passes c ts c') : ∀ t ∈ ts, t.kind ≠ .endOfInput := by
  induction h with
  | nil => simp
  | cons hne _ _ ih => exact List.forall_mem_cons.mpr ⟨hne, ih⟩

/-- **The tokens that are passed are the first ones of the feed.** -/
theorem results (h : Passes c ts c') (hc : c.On f) :
    ∃ f', c'.On f' ∧ f.results = ts.map .ok ++ f'.results ∧ f'.endLine = f.endLine := by
  induction h generalizing f with
  | nil => exact ⟨f, hc, rfl, rfl⟩
  | cons hne ha _ ih =>
    obtain ⟨hr, hline⟩ := hc.results hne
    obtain ⟨f', hc', hr', hline'⟩ := ih (hc.advance hne ha).2
    refine ⟨f', hc', ?_, hline'.trans hline⟩
    rw [hr, hr', List.map_cons, List.cons_append]

theorem proper (h : Passes c ts c') (hc : c.Proper) : c'.Proper := by
  obtain ⟨f, hf⟩ := hc
  obtain ⟨f', hf', -, -⟩ := h.results hf
  exact ⟨f', hf'⟩

/-- Only genuine tokens are passed. -/
theorem genuine (h : Passes c ts c') (hc : c.Proper) : ∀ t ∈ ts, t.Genuine := by
  intro t ht
  obtain ⟨f, hf⟩ := hc
  obtain ⟨f', -, hr, -⟩ := h.results hf
  exact hf.genuine.tokens t (hr ▸ List.mem_append_left _ (List.mem_map_of_mem ht))

/-- Tokens in front of a feed can be passed if no diagnostic stands right behind them. -/
theorem of_results {more : List (Except Diagnostic Token)} (hc : c.On f)
    (h : f.results = ts.map .ok ++ more) (hmore : ∀ d, more.head? ≠ some (.error d)) :
    ∃ c', Passes c ts c' ∧ c'.On ⟨more, f.endLine⟩ := by
  induction ts generalizing c f with
  | nil =>
    have hf : f = ⟨more, f.endLine⟩ := by
      rw [show more = f.results from h.symm]
    exact ⟨c, .nil, hf ▸ hc⟩
  | cons t ts ih =>
    have hne : c.current.kind ≠ .endOfInput := by
      intro he
      rw [(hc.results_end he).1] at h
      cases h
    obtain ⟨hr, hline⟩ := hc.results hne
    rw [hr, List.map_cons, List.cons_append] at h
    obtain ⟨htoken, hrest⟩ := List.cons.inj h
    have ht : c.current = t := Except.ok.inj htoken
    obtain ⟨next, rest, hn⟩ := Feed.exists_next hrest hmore
    have ha : Parse.advance c =
        .ok c.current { c with passed := c.current :: c.passed, current := next, feed := rest } := by
      unfold Parse.advance
      rw [hn]
    obtain ⟨c', hpasses, hon⟩ := ih (hc.advance hne ha).2 hrest
    refine ⟨c', ht ▸ .cons hne ha hpasses, ?_⟩
    rw [← hline]
    exact hon

/-- Where nothing but tokens is ahead they can be passed up to the end of input. -/
theorem to_end (hc : c.On f) (h : f.results = ts.map .ok) :
    ∃ c', Passes c ts c' ∧ c'.current = f.last := by
  have hnil : f.results = ts.map .ok ++ [] := by rw [h, List.append_nil]
  obtain ⟨c', hp, hon⟩ := of_results hc hnil (by simp)
  exact ⟨c', hp, hon.current_of_nil rfl⟩

end Passes

namespace Parse

/-! ### What a rule does with tokens -/

variable {α β : Type} {x y z : Parse α} {f : α → Parse β} {y' : Parse β} {ts us : List Token}
  {t u : Token} {a : α}

/-- Gives up at the current token for a cause. -/
def refuse (cause : Cause) : Parse α := fun c => .error (c.diagnostic cause) c

/-- Wherever the tokens are ahead and the token `t` is behind them, the first rule does what the
second does behind them. -/
def Answers (x : Parse α) (ts : List Token) (t : Token) (y : Parse α) : Prop :=
  ∀ c c', c.Proper → Passes c ts c' → c'.current = t → x c = y c'

theorem answers_self : Answers x [] t x := by
  intro c c' _ h _
  cases h
  rfl

/-- A rule that begins with a look at the current token does what it does for that token. -/
theorem Answers.of_eq (h : Answers y ts t z)
    (hxy : ∀ c, c.Proper → c.current = ts.headD t → x c = y c) : Answers x ts t z := by
  intro c c' hc hp ht
  rw [hxy c hc (ht ▸ hp.current_eq)]
  exact h c c' hc hp ht

theorem Answers.bind (hx : Answers x ts (us.headD t) (pure a)) (hf : Answers (f a) us t y') :
    Answers (x >>= f) (ts ++ us) t y' := by
  intro c c' hc hp ht
  obtain ⟨d, hts, hus⟩ := hp.split
  have hd : d.current = us.headD t := ht ▸ hus.current_eq
  show EStateM.bind x f c = y' c'
  unfold EStateM.bind
  rw [hx c d hc hts hd]
  exact hf d c' (hts.proper hc) hus ht

/-- What is made of the answer of one rule is made of the answer of the other. -/
theorem Answers.bindBoth (h : Answers x ts t y) : Answers (x >>= f) ts t (y >>= f) := by
  intro c c' hc hp ht
  show EStateM.bind x f c = EStateM.bind y f c'
  unfold EStateM.bind
  rw [h c c' hc hp ht]

/-- A rule for a list, whose first elements are known, and one more element in front of it. -/
theorem Answers.cons {x : Parse (List α)} {as : List α}
    (h : Answers x ts t (do let more ← x; return as ++ more)) :
    Answers (do let rest ← x; return a :: rest) ts t
      (do let more ← x; return (a :: as) ++ more) := by
  simpa only [bind_assoc, pure_bind, List.cons_append] using
    h.bindBoth (f := fun rest => pure (a :: rest))

theorem Answers.bind_refuse {cause : Cause} (hx : Answers x ts t (refuse cause)) :
    Answers (x >>= f) ts t (refuse cause) := by
  intro c c' hc hp ht
  show EStateM.bind x f c = _
  unfold EStateM.bind
  rw [hx c c' hc hp ht]
  rfl

/-- A rule whose value only makes up another value. -/
theorem Answers.map {g : α → β} (hx : Answers x ts t (pure a)) :
    Answers (do let a ← x; return g a) ts t (pure (g a)) := by
  intro c c' hc hp ht
  show EStateM.bind x _ c = _
  unfold EStateM.bind
  rw [hx c c' hc hp ht]
  rfl

theorem answers_expect {kind : Kind} (hu : u.kind = kind) :
    Answers (expect kind) [u] t (pure u) := by
  intro c c' _ hp _
  cases hp with
  | cons _ ha hp =>
    cases hp
    unfold expect
    rw [if_pos hu]
    exact ha

theorem answers_expect_refuse {kind : Kind} (ht : t.kind ≠ kind) :
    Answers (expect kind) [] t (refuse (.unexpectedToken kind t.kind)) := by
  refine answers_self.of_eq fun c _ hc => ?_
  have hct : c.current = t := hc
  unfold expect
  rw [hct, if_neg ht]
  rfl

theorem answers_unexpected (message : String) :
    Answers (unexpected (α := α) message) [] t
      (refuse (.unexpectedTokenDetailed t.kind message)) := by
  refine answers_self.of_eq fun c _ hc => ?_
  have hct : c.current = t := hc
  unfold unexpected Cursor.unexpected
  rw [hct]
  rfl

/-- Passing a token is expecting a token of its kind. -/
theorem advance_bind_eq (c : Cursor) (f : Token → Parse β) :
    (advance >>= f) c = (expect c.current.kind >>= f) c := by
  show EStateM.bind advance f c = EStateM.bind (expect c.current.kind) f c
  simp only [EStateM.bind, expect, if_true]

end Parse

end DeskCalc
