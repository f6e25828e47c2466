import DeskCalc.Parse.Stmt
import DeskCalc.Proofs.Parse.Grammar
import DeskCalc.Proofs.Parse.Passing

/-!
What the rules of the parser read. A rule reads a language of tokens if at every proper cursor it
either passes tokens of the language and gives their value, or gives up at the first token that it
cannot use: everything before that token begins the language (`Reads`). Both outcomes depend on no
token further on. Main statement: rules that run one after the other read their languages one after
the other (`Reads.bind`).
-/

namespace DeskCalc

open Token (Kind)

/-! ### Languages of tokens -/

/-- Which values tokens stand for. -/
abbrev Language (α : Type) := List Token → α → Prop

namespace Language

variable {α β : Type}

/-- Nothing, which stands for the value. -/
def pure (a : α) : Language α := fun ts b => ts = [] ∧ b = a

/-- Tokens of the first language and then tokens of the one that their value leads to. -/
def bind (L : Language α) (M : α → Language β) : Language β := fun ts b =>
  ∃ us vs a, ts = us ++ vs ∧ L us a ∧ M a vs b

def token (kind : Kind) : Language Token := fun ts t => ts = [t] ∧ t.kind = kind

/-- The tokens begin the language: on any line they can be completed with genuine tokens. -/
def Begins (L : Language α) (ts : List Token) : Prop :=
  ∀ line, ∃ rest a, (∀ t ∈ rest, t.Genuine ∧ t.line = line) ∧ L (ts ++ rest) a

variable {L L' : Language α} {M : α → Language β} {ts us : List Token} {a : α}

theorem Begins.mono (h : L.Begins ts) (hL : ∀ ts a, L ts a → L' ts a) : L'.Begins ts := by
  intro line
  obtain ⟨rest, a, hrest, hl⟩ := h line
  exact ⟨rest, a, hrest, hL _ _ hl⟩

theorem begins_pure : (pure a).Begins [] :=
  fun _ => ⟨[], a, by simp, rfl, rfl⟩

theorem begins_token {kind : Kind} (h : kind ≠ .endOfInput) : (token kind).Begins [] := by
  intro line
  obtain ⟨t, hk, hline, ht⟩ := Token.exists_genuine h line
  exact ⟨[t], t, by simpa using ⟨ht, hline⟩, rfl, hk⟩

/-- What begins the first language begins both. -/
theorem Begins.bind (h : L.Begins ts) (hM : ∀ a, (M a).Begins []) : (L.bind M).Begins ts := by
  intro line
  obtain ⟨rest, a, hrest, hl⟩ := h line
  obtain ⟨more, b, hmore, hm⟩ := hM a line
  refine ⟨rest ++ more, b, List.forall_mem_append.mpr ⟨hrest, hmore⟩, ?_⟩
  exact ⟨ts ++ rest, more, a, (List.append_assoc ..).symm, hl, hm⟩

/-- Tokens of the first language with what begins the second begin both. -/
theorem Begins.after (h : (M a).Begins us) (hl : L ts a) : (L.bind M).Begins (ts ++ us) := by
  intro line
  obtain ⟨rest, b, hrest, hm⟩ := h line
  exact ⟨rest, b, hrest, ts, us ++ rest, a, List.append_assoc .., hl, hm⟩

/-- The cause of a refusal behind tokens of a token of the kind `found`: either a kind that would
have gone on in its place, or a message. -/
inductive Blames (L : Language α) (ts : List Token) (found : Kind) : Cause → Prop
  | expected {kind} :
      kind ≠ .endOfInput → (∀ t : Token, t.kind = kind → L.Begins (ts ++ [t])) →
      Blames L ts found (.unexpectedToken kind found)
  | detailed {message} : Blames L ts found (.unexpectedTokenDetailed found message)

variable {found : Kind} {cause : Cause}

theorem Blames.mono (h : L.Blames ts found cause) (hL : ∀ ts a, L ts a → L' ts a) :
    L'.Blames ts found cause := by
  cases h with
  | expected hne hb => exact .expected hne fun t ht => (hb t ht).mono hL
  | detailed => exact .detailed

theorem Blames.bind (h : L.Blames ts found cause) (hM : ∀ a, (M a).Begins []) :
    (L.bind M).Blames ts found cause := by
  cases h with
  | expected hne hb => exact .expected hne fun t ht => (hb t ht).bind hM
  | detailed => exact .detailed

theorem Blames.after (h : (M a).Blames us found cause) (hl : L ts a) :
    (L.bind M).Blames (ts ++ us) found cause := by
  cases h with
  | expected hne hb =>
    refine .expected hne fun t ht => ?_
    rw [List.append_assoc]
    exact (hb t ht).after hl
  | detailed => exact .detailed

end Language

namespace Parse

variable {α β : Type} {L L' : Language α} {M : α → Language β} {x y : Parse α} {f : α → Parse β}
  {c c' : Cursor} {n : Nat}

/-! ### What a rule reads -/

/-- What can come of a rule at a cursor: it passes tokens of the language, it refuses the first
token that does not continue what begins the language, or a diagnostic stands in the place of the
token that comes next. -/
inductive Reads (L : Language α) (x : Parse α) (c : Cursor) : Prop
  | read {ts a c'} :
      Passes c ts c' → L ts a → Answers x ts c'.current (pure a) → Reads L x c
  | refused {ts stop cause} :
      Passes c ts stop → L.Begins ts → L.Blames ts stop.current.kind cause →
      Answers x ts stop.current (refuse cause) → Reads L x c
  | broken {ts stop d stop'} :
      Passes c ts stop → L.Begins (ts ++ [stop.current]) → stop.current.kind ≠ .endOfInput →
      advance stop = .error d stop' → x c = .error d stop' → Reads L x c

theorem Reads.mono (h : Reads L x c) (hL : ∀ ts a, L ts a → L' ts a) : Reads L' x c := by
  cases h with
  | read hp hl ha => exact .read hp (hL _ _ hl) ha
  | refused hp hb hblame ha => exact .refused hp (hb.mono hL) (hblame.mono hL) ha
  | broken hp hb hne hd hx => exact .broken hp (hb.mono hL) hne hd hx

/-- A rule that begins with a look at the current token reads what it reads for that token. -/
theorem Reads.of_eq (h : Reads L y c) (hc : c.Proper)
    (hxy : ∀ d, d.Proper → d.current = c.current → x d = y d) : Reads L x c := by
  cases h with
  | read hp hl ha =>
    exact .read hp hl (ha.of_eq fun d hd he => hxy d hd (he.trans hp.current_eq.symm))
  | refused hp hb hblame ha =>
    exact .refused hp hb hblame (ha.of_eq fun d hd he => hxy d hd (he.trans hp.current_eq.symm))
  | broken hp hb hne hd hx => exact .broken hp hb hne hd ((hxy c hc rfl).trans hx)

/-- One rule after the other reads one language after the other. -/
theorem Reads.bind (hc : c.Proper) (hx : Reads L x c)
    (hf : ∀ a c', x c = .ok a c' → c'.Proper → Reads (M a) (f a) c')
    (hM : ∀ a, (M a).Begins []) : Reads (L.bind M) (x >>= f) c := by
  cases hx with
  | @read ts a c' hp hl ha =>
    have hok : x c = .ok a c' := ha c c' hc hp rfl
    have hbind : (x >>= f) c = f a c' := by
      show EStateM.bind x f c = _
      unfold EStateM.bind
      rw [hok]
    cases hf a c' hok (hp.proper hc) with
    | read hp' hm ha' =>
      refine .read (hp.append hp') ⟨_, _, a, rfl, hl, hm⟩ (Answers.bind (a := a) ?_ ha')
      rw [← hp'.current_eq]
      exact ha
    | refused hp' hb hblame ha' =>
      refine .refused (hp.append hp') (hb.after hl) (hblame.after hl) (Answers.bind (a := a) ?_ ha')
      rw [← hp'.current_eq]
      exact ha
    | broken hp' hb hne hd hfd =>
      refine .broken (hp.append hp') ?_ hne hd (hbind.trans hfd)
      rw [List.append_assoc]
      exact hb.after hl
  | refused hp hb hblame ha =>
    exact .refused hp (hb.bind hM) (hblame.bind hM) ha.bind_refuse
  | broken hp hb hne hd hxd =>
    refine .broken hp (hb.bind hM) hne hd ?_
    show EStateM.bind x f c = _
    unfold EStateM.bind
    rw [hxd]

/-! ### Rules below a bound -/

/-- Wherever less than `n` is left to read the rule reads the language, which nothing begins. -/
structure ReadsBelow (n : Nat) (L : Language α) (x : Parse α) : Prop where
  begins : L.Begins []
  reads : ∀ c, c.Proper → c.weight < n → Reads L x c

theorem ReadsBelow.mono (h : ReadsBelow n L x) (hL : ∀ ts a, L ts a → L' ts a) :
    ReadsBelow n L' x :=
  ⟨h.begins.mono hL, fun c hc hw => (h.reads c hc hw).mono hL⟩

theorem readsBelow_zero (h : L.Begins []) : ReadsBelow 0 L x :=
  ⟨h, fun _ _ hw => absurd hw (Nat.not_lt_zero _)⟩

theorem weight_le_of_ok {a : α} (hs : Forward x) (h : x c = .ok a c') : c'.weight ≤ c.weight := by
  have hw := hs c
  rw [h] at hw
  exact hw

theorem weight_lt_of_ok {a : α} (hs : Shrinking x) (h : x c = .ok a c') :
    c'.weight < c.weight := by
  have hw := hs c
  rw [h] at hw
  exact hw

theorem ReadsBelow.bind (hs : Forward x) (hx : ReadsBelow n L x)
    (hf : ∀ a, ReadsBelow n (M a) (f a)) : ReadsBelow n (L.bind M) (x >>= f) := by
  have hM : ∀ a, (M a).Begins [] := fun a => (hf a).begins
  refine ⟨hx.begins.bind hM, fun c hc hw => (hx.reads c hc hw).bind hc ?_ hM⟩
  intro a c' hok hc'
  have hle := weight_le_of_ok hs hok
  exact (hf a).reads c' hc' (by omega)

/-- After a rule that reads something less is left to read. -/
theorem ReadsBelow.bindShrinking (hs : Shrinking x) (hx : ReadsBelow (n + 1) L x)
    (hf : ∀ a, ReadsBelow n (M a) (f a)) : ReadsBelow (n + 1) (L.bind M) (x >>= f) := by
  have hM : ∀ a, (M a).Begins [] := fun a => (hf a).begins
  refine ⟨hx.begins.bind hM, fun c hc hw => (hx.reads c hc hw).bind hc ?_ hM⟩
  intro a c' hok hc'
  have hlt := weight_lt_of_ok hs hok
  exact (hf a).reads c' hc' (by omega)

/-- A rule whose value only makes up another value. -/
theorem ReadsBelow.map {L' : Language β} {g : α → β} (hx : ReadsBelow n L x)
    (hL : ∀ ts a, L ts a → L' ts (g a)) : ReadsBelow n L' (do let a ← x; return g a) := by
  have hM : ∀ a, (Language.pure (g a)).Begins [] := fun _ => Language.begins_pure
  have hone : ∀ ts b, L.bind (fun a => .pure (g a)) ts b → L' ts b := by
    rintro _ _ ⟨ts, _, a, rfl, hl, rfl, rfl⟩
    rw [List.append_nil]
    exact hL ts a hl
  refine ⟨(hx.begins.bind hM).mono hone, fun c hc hw => ?_⟩
  refine Reads.mono ((hx.reads c hc hw).bind hc ?_ hM) hone
  exact fun a c' _ _ => .read .nil ⟨rfl, rfl⟩ answers_self

/-! ### Single tokens -/

theorem expect_eq_ok {kind : Kind} {t : Token} (h : expect kind c = .ok t c') :
    t = c.current ∧ c.current.kind = kind := by
  unfold expect at h
  split at h
  · rename_i hk
    exact ⟨(advance_eq_ok h).1, hk⟩
  · cases h

theorem readsBelow_expect {kind : Kind} (hne : kind ≠ .endOfInput) :
    ReadsBelow n (.token kind) (expect kind) := by
  refine ⟨Language.begins_token hne, fun c _ _ => ?_⟩
  by_cases hk : c.current.kind = kind
  · have hx : expect kind c = advance c := by
      unfold expect
      rw [if_pos hk]
    cases ha : advance c with
    | ok t c' =>
      obtain ⟨rfl, -⟩ := expect_eq_ok (hx.trans ha)
      exact .read (.one (hk ▸ hne) ha) ⟨rfl, hk⟩ (answers_expect hk)
    | error d c' =>
      have hbegins : (Language.token kind).Begins ([] ++ [c.current]) :=
        fun line => ⟨[], c.current, by simp, rfl, hk⟩
      exact .broken .nil hbegins (hk ▸ hne) ha (hx.trans ha)
  · have hblame : (Language.token kind).Blames [] c.current.kind
        (.unexpectedToken kind c.current.kind) :=
      .expected hne fun t ht line => ⟨[], t, by simp, rfl, ht⟩
    exact .refused .nil (Language.begins_token hne) hblame (answers_expect_refuse hk)

theorem reads_unexpected (message : String) (h : L.Begins []) :
    Reads L (unexpected message) c :=
  .refused .nil h .detailed (answers_unexpected message)

/-- A rule that builds something from one token, which never fails for a genuine one. -/
theorem readsBelow_leaf {kind : Kind} (hne : kind ≠ .endOfInput) (value : Token → α)
    {build : Token → Except Diagnostic α}
    (h : ∀ t : Token, t.Genuine → t.kind = kind → build t = .ok (value t))
    (hL : ∀ t : Token, t.kind = kind → L [t] (value t)) :
    ReadsBelow n L (do let t ← expect kind; ofExcept (build t)) := by
  have hM : ∀ t, (Language.pure (value t)).Begins [] := fun t => Language.begins_pure
  have hone : ∀ ts a, (Language.token kind).bind (fun t => .pure (value t)) ts a → L ts a := by
    rintro ts a ⟨us, vs, t, rfl, ⟨rfl, hk⟩, rfl, rfl⟩
    exact hL t hk
  have hx := readsBelow_expect (n := n) hne
  refine ⟨(hx.begins.bind hM).mono hone, fun c hc hw => ?_⟩
  refine Reads.mono ((hx.reads c hc hw).bind hc ?_ hM) hone
  intro t c' hok hc'
  obtain ⟨rfl, hk⟩ := expect_eq_ok hok
  obtain ⟨f, hf⟩ := hc
  have hbuild : build c.current = .ok (value c.current) :=
    h _ (hf.genuine_current (hk ▸ hne)) hk
  rw [hbuild]
  exact .read .nil ⟨rfl, rfl⟩ answers_self

end Parse

end DeskCalc
