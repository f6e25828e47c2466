import DeskCalc.Proofs.Token.Lexeme

/-!
One call of a scanner. A scanner that stands before a lexeme gives its token and stands behind it
afterwards (`next_of_lexeme`), and every token that it gives has a lexeme that was as long as it could
be (`lexeme_of_next`). What it refuses is a fault of the lexical stage (`stage_of_next`).
-/

namespace DeskCalc

namespace Scanner

open Token (Lexeme Kind Reader)

/-! ### One token -/

/-- The token of a number that was taken apart, or what is wrong with it. -/
def numberResult (s : Scanner) (kind : Kind) : Except Cause String → Except Diagnostic Token
  | .ok text => .ok ⟨kind, s.line, some text⟩
  | .error cause => .error (s.diagnostic cause)

/-- A run of digits with a point behind it is the beginning of a decimal number. -/
theorem number_point {s : Scanner} {whole fraction rest : List Char}
    (hw : whole.all Char.isDigit = true) (hf : fraction.all Char.isDigit = true)
    (h : s.reader.chars = whole ++ '.' :: (fraction ++ rest))
    (hrest : ∀ c ∈ rest.head?, c.isDigit = false) :
    ∃ r : Reader, s.number =
        (s.numberResult .decimal (Token.decimalText whole fraction), { s with reader := r }) ∧
      r.chars = rest := by
  have hpoint : ∀ c ∈ ('.' :: (fraction ++ rest)).head?, c.isDigit = false := by
    intro c hc
    cases hc
    rfl
  have hfst : (s.reader.takeWhile Char.isDigit).1 = whole := by
    rw [Reader.takeWhile_fst, h, Token.takeWhile_run hw hpoint]
  have hsnd : (s.reader.takeWhile Char.isDigit).2.chars = '.' :: (fraction ++ rest) := by
    rw [Reader.chars_takeWhile, h, Token.dropWhile_run hw hpoint]
  obtain ⟨r, hr, hchars, -⟩ := Reader.read_of_chars hsnd
  have hfraction : (r.takeWhile Char.isDigit).1 = fraction := by
    rw [Reader.takeWhile_fst, hchars, Token.takeWhile_run hf hrest]
  refine ⟨(r.takeWhile Char.isDigit).2, ?_, ?_⟩
  · unfold number
    simp only [hfst, hr, if_true, hfraction]
    rfl
  · rw [Reader.chars_takeWhile, hchars, Token.dropWhile_run hf hrest]

/-- A run of digits with anything else behind it is an integer. -/
theorem number_integer {s : Scanner} {digits rest : List Char}
    (hd : digits.all Char.isDigit = true) (h : s.reader.chars = digits ++ rest)
    (hrest : Kind.integer.Ends rest) :
    ∃ r : Reader, s.number =
        (s.numberResult .integer (Token.integerText digits), { s with reader := r }) ∧
      r.chars = rest := by
  have hends : ∀ c ∈ rest.head?, c.isDigit = false ∧ c ≠ '.' := by
    intro c hc
    simpa [Kind.goesOn] using hrest c hc
  have hdigit : ∀ c ∈ rest.head?, c.isDigit = false := fun c hc => (hends c hc).1
  have hfst : (s.reader.takeWhile Char.isDigit).1 = digits := by
    rw [Reader.takeWhile_fst, h, Token.takeWhile_run hd hdigit]
  have hsnd : (s.reader.takeWhile Char.isDigit).2.chars = rest := by
    rw [Reader.chars_takeWhile, h, Token.dropWhile_run hd hdigit]
  cases rest with
  | nil =>
    refine ⟨(s.reader.takeWhile Char.isDigit).2, ?_, hsnd⟩
    unfold number
    simp only [hfst, Reader.read_of_chars_nil hsnd]
    rfl
  | cons c rest =>
    obtain ⟨r, hr, hchars, hpending⟩ := Reader.read_of_chars hsnd
    refine ⟨r.unread c, ?_, ?_⟩
    · unfold number
      simp only [hfst, hr, if_neg (hends c rfl).2]
      rfl
    · rw [Reader.chars_unread hpending, hchars]

theorem word_run {s : Scanner} {run rest : List Char} (hw : run.all Token.isWordChar = true)
    (h : s.reader.chars = run ++ rest) (hrest : ∀ c ∈ rest.head?, Token.isWordChar c = false) :
    ∃ r : Reader, s.word = (Token.ofWord run s.line, { s with reader := r }) ∧ r.chars = rest := by
  have hfst : (s.reader.takeWhile Token.isWordChar).1 = run := by
    rw [Reader.takeWhile_fst, h, Token.takeWhile_run hw hrest]
  refine ⟨(s.reader.takeWhile Token.isWordChar).2, ?_, ?_⟩
  · unfold Scanner.word
    simp only [hfst]
  · rw [Reader.chars_takeWhile, h, Token.dropWhile_run hw hrest]

/-! ### The next token by its first character -/

theorem skip_nil {s : Scanner} (h : s.reader.chars = []) : s.skip = (none, s) := by
  rw [skip]
  split
  · rfl
  · rename_i hr
    rw [Reader.read_of_chars_nil h] at hr
    cases hr

theorem skip_space {s : Scanner} {c : Char} {cs : List Char} (hc : Token.isSpace c = true)
    (h : s.reader.chars = c :: cs) :
    ∃ r : Reader, s.skip = skip ⟨r, s.line + [c].count '\n', s.file⟩ ∧ r.chars = cs := by
  obtain ⟨r, hr, hchars, -⟩ := Reader.read_of_chars h
  refine ⟨r, ?_, hchars⟩
  rw [skip]
  split
  · rename_i hn
    rw [hr] at hn
    cases hn
  · rename_i d r' hd
    rw [hr] at hd
    cases hd
    by_cases hnl : c = '\n'
    · simp [hnl]
    · simp [hnl, hc]

theorem skip_token {s : Scanner} {c : Char} {cs : List Char} (hc : Token.isSpace c = false)
    (h : s.reader.chars = c :: cs) :
    ∃ r : Reader, s.skip = (some c, { s with reader := r }) ∧ r.chars = cs ∧
      (r.unread c).chars = c :: cs := by
  obtain ⟨r, hr, hchars, hpending⟩ := Reader.read_of_chars h
  refine ⟨r, ?_, hchars, by rw [Reader.chars_unread hpending, hchars]⟩
  rw [skip]
  split
  · rename_i hn
    rw [hr] at hn
    cases hn
  · rename_i d r' hd
    rw [hr] at hd
    cases hd
    have hnl : c ≠ '\n' := by
      rintro rfl
      cases hc
    simp [hnl, hc]

theorem next_nil {s : Scanner} (h : s.reader.chars = []) :
    s.next = (.ok ⟨.endOfInput, s.line, none⟩, s) := by
  unfold next
  rw [skip_nil h]

/-- What stands between tokens is skipped, and lines are counted on the way. -/
theorem next_blanks {s : Scanner} {blanks cs : List Char}
    (hb : ∀ c ∈ blanks, Token.isSpace c = true) (h : s.reader.chars = blanks ++ cs) :
    ∃ r : Reader, s.next = next ⟨r, s.line + blanks.count '\n', s.file⟩ ∧ r.chars = cs := by
  induction blanks generalizing s with
  | nil => exact ⟨s.reader, rfl, h⟩
  | cons c blanks ih =>
    obtain ⟨hc, hb⟩ := List.forall_mem_cons.mp hb
    obtain ⟨r, hskip, hr⟩ := skip_space hc h
    have hnext : s.next = next ⟨r, s.line + [c].count '\n', s.file⟩ := by
      unfold next
      rw [hskip]
    obtain ⟨r', hnext', hr'⟩ := ih (s := ⟨r, s.line + [c].count '\n', s.file⟩) hb hr
    refine ⟨r', ?_, hr'⟩
    rw [hnext, hnext', Nat.add_assoc, ← List.count_append]
    rfl

theorem next_digit {s : Scanner} {c : Char} {cs : List Char} (hc : c.isDigit = true)
    (h : s.reader.chars = c :: cs) :
    ∃ r : Reader, s.next = number { s with reader := r } ∧ r.chars = c :: cs := by
  obtain ⟨r, hskip, -, hr⟩ := skip_token (Token.not_isSpace_of_isDigit hc) h
  refine ⟨r.unread c, ?_, hr⟩
  unfold next
  simp only [hskip, hc, if_true]

theorem next_letter {s : Scanner} {c : Char} {cs : List Char} (hc : Text.isAlphabetic c = true)
    (h : s.reader.chars = c :: cs) :
    ∃ r : Reader, s.next =
        (.ok (word { s with reader := r }).1, (word { s with reader := r }).2) ∧
      r.chars = c :: cs := by
  obtain ⟨r, hskip, -, hr⟩ := skip_token (Token.not_isSpace_of_isAlphabetic hc) h
  have hd : ¬c.isDigit = true := by
    rw [Token.not_isDigit_of_isAlphabetic hc]
    exact Bool.false_ne_true
  refine ⟨r.unread c, ?_, hr⟩
  unfold next
  simp only [hskip, if_neg hd, hc, if_true]

/-- A character that is no space, no digit and no letter is punctuation, or is not recognised. -/
theorem next_sign {s : Scanner} {c : Char} {cs : List Char} (hs : Token.isSpace c = false)
    (hd : c.isDigit = false) (ha : Text.isAlphabetic c = false) (h : s.reader.chars = c :: cs) :
    ∃ r : Reader, s.next = ((match Kind.punctuation? c with
          | some kind => .ok ⟨kind, s.line, none⟩
          | none => .error (s.diagnostic (.unrecognisedCharacter c))), { s with reader := r }) ∧
      r.chars = cs := by
  obtain ⟨r, hskip, hr, -⟩ := skip_token hs h
  refine ⟨r, ?_, hr⟩
  unfold next
  simp only [hskip, hd, ha, Bool.false_eq_true, if_false]
  cases Kind.punctuation? c <;> rfl

/-! ### Lexemes and the next token -/

theorem next_word {s : Scanner} {c : Char} {run rest : List Char}
    (hc : Text.isAlphabetic c = true) (hw : run.all Token.isWordChar = true)
    (h : s.reader.chars = c :: run ++ rest) (hrest : ∀ d ∈ rest.head?, Token.isWordChar d = false) :
    ∃ r : Reader, s.next = (.ok (Token.ofWord (c :: run) s.line), { s with reader := r }) ∧
      r.chars = rest := by
  have hall : (c :: run).all Token.isWordChar = true := by
    rw [List.all_cons, hw, Token.isWordChar, hc]
    rfl
  obtain ⟨r, hnext, hr⟩ := next_letter hc h
  obtain ⟨r', hword, hr'⟩ := word_run (s := { s with reader := r }) hall hr hrest
  exact ⟨r', by rw [hnext, hword], hr'⟩

/-- **A scanner before a lexeme gives its token**, if what follows does not make it longer. -/
theorem next_of_lexeme {s : Scanner} {lexeme rest : List Char} {kind : Kind} {text? : Option String}
    (hl : Lexeme lexeme kind text?) (hrest : kind.Ends rest) (h : s.reader.chars = lexeme ++ rest) :
    ∃ r : Reader,
      s.next = (.ok ⟨kind, s.line, text?⟩, { s with reader := r }) ∧ r.chars = rest := by
  cases hl with
  | integer hd ha =>
    have hall := Token.all_of_isDigits hd
    obtain ⟨c, cs, rfl, hc, -⟩ := Token.isDigits_cons hd
    obtain ⟨r, hnext, hr⟩ := next_digit hc h
    obtain ⟨r', hnumber, hr'⟩ := number_integer (s := { s with reader := r }) hall hr hrest
    refine ⟨r', ?_, hr'⟩
    rw [hnext, hnumber]
    simp only [Token.integerText, ha, if_true]
    rfl
  | @decimal whole fraction hw hf hlen ha =>
    have hall := Token.all_of_isDigits hw
    have hall' := Token.all_of_isDigits hf
    obtain ⟨c, cs, rfl, hc, -⟩ := Token.isDigits_cons hw
    obtain ⟨d, ds, rfl, -, -⟩ := Token.isDigits_cons hf
    have hchars : s.reader.chars = (c :: cs) ++ '.' :: ((d :: ds) ++ rest) := by
      rw [h, List.append_assoc]
      rfl
    have htext : Token.decimalText (c :: cs) (d :: ds) =
        .ok (String.ofList (c :: cs ++ '.' :: d :: ds)) := by
      simp only [Token.decimalText, List.isEmpty_cons, Bool.false_eq_true, if_false,
        if_neg (Nat.not_lt.mpr hlen), ha, if_true]
    obtain ⟨r, hnext, hr⟩ := next_digit hc hchars
    obtain ⟨r', hnumber, hr'⟩ := number_point (s := { s with reader := r }) hall hall' hr hrest
    rw [htext] at hnumber
    exact ⟨r', hnext.trans hnumber, hr'⟩
  | keyword hk =>
    have hword : Token.ofWord lexeme s.line = ⟨kind, s.line, none⟩ := by
      unfold Token.ofWord
      rw [hk]
    obtain ⟨rfl, rfl⟩ | ⟨rfl, rfl⟩ | ⟨rfl, rfl⟩ := Token.keyword_cases hk
    all_goals
      rw [← hword]
      exact next_word (by decide) (by decide) h hrest
  | @identifier c run hc hw hk =>
    have hword : Token.ofWord (c :: run) s.line =
        ⟨.identifier, s.line, some (String.ofList (c :: run))⟩ := by
      unfold Token.ofWord
      rw [hk]
    rw [← hword]
    exact next_word hc hw h hrest
  | punctuation hk =>
    obtain ⟨hs, hd, ha⟩ := Token.punctuation_apart hk
    obtain ⟨r, hnext, hr⟩ := next_sign hs hd ha h
    exact ⟨r, by rw [hnext, hk], hr⟩

theorem eq_of_numberResult {s : Scanner} {kind : Kind} {r : Except Cause String} {t : Token}
    (h : s.numberResult kind r = .ok t) : ∃ text, r = .ok text ∧ t = ⟨kind, s.line, some text⟩ := by
  cases r with
  | error cause => cases h
  | ok text =>
    cases h
    exact ⟨text, rfl, rfl⟩

/-- What the scanner gave next, the lexeme that it passed for it and the text that it left. -/
structure Took (s : Scanner) (t : Token) (s' : Scanner) (lexeme : List Char) : Prop where
  chars : s.reader.chars = lexeme ++ s'.reader.chars
  lexeme : Lexeme lexeme t.kind t.text?
  ends : t.kind.Ends s'.reader.chars
  line : t.line = s.line
  kept : s'.line = s.line

theorem took_number {s s' : Scanner} {t : Token} {c : Char} {cs : List Char}
    (hc : c.isDigit = true) (hchars : s.reader.chars = c :: cs) (h : s.number = (.ok t, s')) :
    ∃ lexeme, Took s t s' lexeme := by
  obtain ⟨whole, rest, hsplit, hdigits, hfront⟩ := Token.exists_number hc cs
  have hall := Token.all_of_isDigits hdigits
  rw [hsplit] at hchars
  rcases hfront with ⟨fraction, behind, rfl, hfraction, hbehind⟩ | hends
  · obtain ⟨r, hnumber, hr⟩ := number_point hall hfraction hchars hbehind
    rw [hnumber, Prod.mk.injEq] at h
    obtain ⟨hresult, rfl⟩ := h
    obtain ⟨text, htext, rfl⟩ := eq_of_numberResult hresult
    have hlexeme := Token.lexeme_of_decimalText hdigits hfraction htext
    refine ⟨whole ++ '.' :: fraction, ?_, hlexeme, ?_, rfl, rfl⟩
    · rw [hchars, hr, List.append_assoc, List.cons_append]
    · rw [hr]
      exact hbehind
  · obtain ⟨r, hnumber, hr⟩ := number_integer hall hchars hends
    rw [hnumber, Prod.mk.injEq] at h
    obtain ⟨hresult, rfl⟩ := h
    obtain ⟨text, htext, rfl⟩ := eq_of_numberResult hresult
    refine ⟨whole, ?_, Token.lexeme_of_integerText hdigits htext, ?_, rfl, rfl⟩
    · rw [hchars, hr]
    · rw [hr]
      exact hends

theorem took_word {s s' : Scanner} {t : Token} {c : Char} {cs : List Char}
    (hc : Text.isAlphabetic c = true) (hchars : s.reader.chars = c :: cs)
    (h : s.next = (.ok t, s')) : ∃ lexeme, Took s t s' lexeme := by
  obtain ⟨run, rest, rfl, hall, hstop⟩ := Token.exists_run Token.isWordChar cs
  obtain ⟨r, hnext, hr⟩ := next_word hc hall hchars hstop
  rw [hnext, Prod.mk.injEq] at h
  obtain ⟨ht, rfl⟩ := h
  cases ht
  refine ⟨c :: run, by rw [hchars, hr]; rfl, Token.lexeme_ofWord hc hall, ?_,
    Token.line_ofWord _ _, rfl⟩
  rw [hr]
  intro d hd
  exact Token.goesOn_ofWord _ _ d ▸ hstop d hd

/-- The scanner stands before a character that is no blank. -/
theorem took_next {s s' : Scanner} {t : Token} {c : Char} {cs : List Char}
    (hc : Token.isSpace c = false) (hchars : s.reader.chars = c :: cs)
    (h : s.next = (.ok t, s')) : ∃ lexeme, Took s t s' lexeme := by
  cases hd : c.isDigit with
  | true =>
    obtain ⟨r, hnumber, hr⟩ := next_digit hd hchars
    rw [hnumber] at h
    obtain ⟨lexeme, ⟨hl, hlexeme, hends, hline, hkept⟩⟩ := took_number hd hr h
    exact ⟨lexeme, by rw [← hl, hr, hchars], hlexeme, hends, hline, hkept⟩
  | false =>
    cases ha : Text.isAlphabetic c with
    | true => exact took_word ha hchars h
    | false =>
      obtain ⟨r, hsign, hr⟩ := next_sign hc hd ha hchars
      rw [hsign, Prod.mk.injEq] at h
      obtain ⟨ht, rfl⟩ := h
      cases hk : Kind.punctuation? c with
      | none =>
        rw [hk] at ht
        cases ht
      | some kind =>
        rw [hk] at ht
        cases ht
        refine ⟨[c], by rw [hchars, hr]; rfl, .punctuation hk, ?_, rfl, rfl⟩
        intro d _
        exact Token.goesOn_punctuation hk d

/-- A call skips the blanks in front. -/
theorem next_skipped (s : Scanner) :
    ∃ (blanks : List Char) (r : Reader), (∀ c ∈ blanks, Token.isSpace c = true) ∧
      s.reader.chars = blanks ++ r.chars ∧ (∀ c ∈ r.chars.head?, Token.isSpace c = false) ∧
      s.next = next ⟨r, s.line + blanks.count '\n', s.file⟩ := by
  obtain ⟨blanks, rest, hsplit, hblanks, hstop⟩ := Token.exists_run Token.isSpace s.reader.chars
  have hblanks := List.all_eq_true.mp hblanks
  obtain ⟨r, hnext, rfl⟩ := next_blanks hblanks hsplit
  exact ⟨blanks, r, hblanks, hsplit, hstop, hnext⟩

/-- **Every token but the last has a lexeme**, which stands behind blanks that are skipped, and what
follows the lexeme does not make it longer. -/
theorem lexeme_of_next {s s' : Scanner} {t : Token} (h : s.next = (.ok t, s'))
    (ht : t.kind ≠ .endOfInput) :
    ∃ blanks lexeme, (∀ c ∈ blanks, Token.isSpace c = true) ∧
      s.reader.chars = blanks ++ lexeme ++ s'.reader.chars ∧ Lexeme lexeme t.kind t.text? ∧
      t.kind.Ends s'.reader.chars ∧ t.line = s.line + blanks.count '\n' ∧ s'.line = t.line := by
  obtain ⟨blanks, r, hblanks, hsplit, hstop, hnext⟩ := next_skipped s
  rw [hnext] at h
  cases hr : r.chars with
  | nil =>
    rw [next_nil hr] at h
    cases h
    exact absurd rfl ht
  | cons c cs =>
    rw [hr] at hstop
    obtain ⟨lexeme, hchars, hl, hends, hline, hkept⟩ := took_next (hstop c rfl) hr h
    refine ⟨blanks, lexeme, hblanks, ?_, hl, hends, hline, hkept.trans hline.symm⟩
    rw [hsplit, List.append_assoc, ← hchars]

/-- The end of input is given when nothing but blanks is left. -/
theorem next_end_blank {s s' : Scanner} {t : Token} (h : s.next = (.ok t, s'))
    (ht : t.kind = .endOfInput) :
    (∀ c ∈ s.reader.chars, Token.isSpace c = true) ∧ t = ⟨.endOfInput, s'.line, none⟩ ∧
      s'.reader.chars = [] := by
  obtain ⟨blanks, r, hblanks, hsplit, hstop, hnext⟩ := next_skipped s
  rw [hnext] at h
  cases hr : r.chars with
  | nil =>
    rw [next_nil hr] at h
    cases h
    refine ⟨?_, rfl, hr⟩
    rw [hsplit, hr, List.append_nil]
    exact hblanks
  | cons c cs =>
    rw [hr] at hstop
    obtain ⟨lexeme, -, hl, -⟩ := took_next (hstop c rfl) hr h
    exact absurd ht hl.ne_endOfInput

theorem next_end {s s' : Scanner} {t : Token} (h : s.next = (.ok t, s'))
    (ht : t.kind = .endOfInput) : t = ⟨.endOfInput, s'.line, none⟩ ∧ s'.reader.chars = [] :=
  (next_end_blank h ht).2

/-! ### What is refused -/

theorem stage_of_numberResult {s : Scanner} {kind : Kind} {r : Except Cause String} {d : Diagnostic}
    (hr : ∀ cause, r = .error cause → cause.stage = .lexical)
    (h : s.numberResult kind r = .error d) : d.stage = .lexical := by
  cases r with
  | ok text => cases h
  | error cause =>
    cases h
    exact hr cause rfl

theorem stage_of_number {s s' : Scanner} {d : Diagnostic} (h : s.number = (.error d, s')) :
    d.stage = .lexical := by
  unfold number at h
  simp only at h
  split at h
  · exact stage_of_numberResult Token.stage_of_integerText (Prod.mk.inj h).1
  · split at h
    · exact stage_of_numberResult Token.stage_of_decimalText (Prod.mk.inj h).1
    · exact stage_of_numberResult Token.stage_of_integerText (Prod.mk.inj h).1

/-- What the scanner refuses is a fault of the lexical stage. -/
theorem stage_of_next {s s' : Scanner} {d : Diagnostic} (h : s.next = (.error d, s')) :
    d.stage = .lexical := by
  unfold next at h
  split at h
  · cases h
  · split at h
    · exact stage_of_number h
    · split at h
      · cases h
      · split at h
        · cases h
        · cases h
          rfl

end Scanner

end DeskCalc
