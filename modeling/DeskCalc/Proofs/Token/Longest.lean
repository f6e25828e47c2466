import DeskCalc.Proofs.Number.Reading
import DeskCalc.Proofs.Token.Next

/-!
Longest match. A lexeme has one of four shapes, and the lexeme in front of a text is its longest
beginning of any of them, whatever becomes of it afterwards. Main statements: there is only one such
lexeme (`Longest.unique`), and it is what a call of the scanner passes, either for a token or as
something that is wrong (`Scanner.next_longest`).
-/

namespace DeskCalc

namespace Token

/-! ### Shapes of lexemes -/

/-- The shapes of lexemes: a word, a number without or with a point, of which the digits behind the
point may be missing, and any other character that is no blank. -/
inductive Shape : List Char → Prop
  | word {c run} : Text.isAlphabetic c = true → run.all isWordChar = true → Shape (c :: run)
  | integer {digits} : Number.isDigits digits = true → Shape digits
  | decimal {whole fraction} :
      Number.isDigits whole = true → fraction.all Char.isDigit = true →
      Shape (whole ++ '.' :: fraction)
  | single {c} : isSpace c = false → Shape [c]

/-- The text of a shape stands in front of the rest, and no longer beginning has a shape. -/
structure Longest (text rest : List Char) : Prop where
  shape : Shape text
  longest : ∀ longer, Shape longer → longer <+: text ++ rest → longer.length ≤ text.length

theorem not_isSpace_of_isWordChar {c : Char} (h : isWordChar c = true) : isSpace c = false := by
  rw [Bool.eq_false_iff]
  intro hs
  have hparts : isWordChar c = false := parts_of_isSpace hs .identifier
  rw [hparts] at h
  cases h

theorem not_isSpace_of_all {p : Char → Bool} (hp : ∀ c, p c = true → isSpace c = false)
    {cs : List Char} (h : cs.all p = true) : ∀ c ∈ cs, isSpace c = false :=
  fun c hc => hp c (List.all_eq_true.mp h c hc)

/-- There is no blank in a shape. -/
theorem Shape.not_isSpace {text : List Char} (h : Shape text) : ∀ c ∈ text, isSpace c = false := by
  have hdigits : ∀ {cs : List Char}, cs.all Char.isDigit = true → ∀ c ∈ cs, isSpace c = false :=
    not_isSpace_of_all fun _ => not_isSpace_of_isDigit
  cases h with
  | word hc hrun =>
    exact List.forall_mem_cons.mpr ⟨not_isSpace_of_isAlphabetic hc,
      not_isSpace_of_all (fun _ => not_isSpace_of_isWordChar) hrun⟩
  | integer hd => exact hdigits (all_of_isDigits hd)
  | decimal hw hf =>
    refine List.forall_mem_append.mpr ⟨hdigits (all_of_isDigits hw), ?_⟩
    exact List.forall_mem_cons.mpr ⟨rfl, hdigits hf⟩
  | single hc => simpa using hc

theorem Shape.exists_cons {text : List Char} (h : Shape text) :
    ∃ c cs, text = c :: cs ∧ isSpace c = false := by
  have hne : text ≠ [] := by
    cases h with
    | word => exact List.cons_ne_nil _ _
    | integer hd =>
      obtain ⟨c, cs, rfl, -⟩ := isDigits_cons hd
      exact List.cons_ne_nil _ _
    | decimal => exact List.append_ne_nil_of_right_ne_nil _ (List.cons_ne_nil _ _)
    | single => exact List.cons_ne_nil _ _
  obtain ⟨c, cs, rfl⟩ := List.exists_cons_of_ne_nil hne
  exact ⟨c, cs, rfl, h.not_isSpace c List.mem_cons_self⟩

/-- **The longest lexeme is the only one.** -/
theorem Longest.unique {text text' rest rest' : List Char} (h : Longest text rest)
    (h' : Longest text' rest') (heq : text ++ rest = text' ++ rest') :
    text = text' ∧ rest = rest' := by
  have hle : text.length ≤ text'.length :=
    h'.longest text h.shape (heq ▸ List.prefix_append text rest)
  have hge : text'.length ≤ text.length :=
    h.longest text' h'.shape (heq ▸ List.prefix_append text' rest')
  exact List.append_inj heq (Nat.le_antisymm hle hge)

/-! ### Lexemes that cannot be longer -/

/-- Characters of a class at the beginning of a text go no further than to a character that is not of
the class. -/
theorem length_le_of_all {p : Char → Bool} {xs ys run rest : List Char} (hxs : xs.all p = true)
    (h : xs ++ ys = run ++ rest) (hrest : ∀ c ∈ rest.head?, p c = false) :
    xs.length ≤ run.length := by
  rcases List.append_eq_append_iff.mp h with ⟨more, rfl, -⟩ | ⟨more, rfl, hmore⟩
  · simp
  · cases more with
    | nil => simp
    | cons c more =>
      have hc : p c = true := List.all_eq_true.mp hxs c (by simp)
      have hstop : p c = false := hrest c (by rw [hmore]; rfl)
      rw [hstop] at hc
      cases hc

/-- A text is cut in one way at the first character that is not of a class. -/
theorem eq_of_all {p : Char → Bool} {xs ys run rest : List Char} (hxs : xs.all p = true)
    (hys : ∀ c ∈ ys.head?, p c = false) (hrun : run.all p = true)
    (hrest : ∀ c ∈ rest.head?, p c = false) (h : xs ++ ys = run ++ rest) : xs = run ∧ ys = rest := by
  have hle := length_le_of_all hxs h hrest
  have hge := length_le_of_all hrun h.symm hys
  exact List.append_inj h (Nat.le_antisymm hle hge)

theorem isDigit_point : ∀ cs : List Char, ∀ c ∈ ('.' :: cs).head?, c.isDigit = false := by
  rintro cs c hc
  cases hc
  rfl

/-- Digits do not begin with a character that is no digit. -/
theorem not_digits_of_head {digits rest cs : List Char} {c : Char}
    (hd : Number.isDigits digits = true) (hc : c.isDigit = false) (h : digits ++ rest = c :: cs) :
    False := by
  obtain ⟨d, ds, rfl, hd, -⟩ := isDigits_cons hd
  obtain ⟨rfl, -⟩ := List.cons.inj h
  rw [hc] at hd
  cases hd

/-- A number is not the beginning of a word. -/
theorem not_word_of_isDigits {digits rest more : List Char} {c : Char} {run : List Char}
    (hd : Number.isDigits digits = true) (hc : Text.isAlphabetic c = true)
    (h : (c :: run) ++ more = digits ++ rest) : False :=
  not_digits_of_head hd (not_isDigit_of_isAlphabetic hc) h.symm

theorem longest_word {c : Char} {run rest : List Char} (hc : Text.isAlphabetic c = true)
    (hrun : run.all isWordChar = true) (hrest : ∀ d ∈ rest.head?, isWordChar d = false) :
    Longest (c :: run) rest := by
  have hdigit := not_isDigit_of_isAlphabetic hc
  refine ⟨.word hc hrun, ?_⟩
  rintro longer hshape ⟨more, hmore⟩
  cases hshape with
  | word hd hrun' =>
    obtain ⟨rfl, htail⟩ := List.cons.inj hmore
    exact Nat.succ_le_succ (length_le_of_all hrun' htail hrest)
  | integer hd => exact (not_digits_of_head hd hdigit hmore).elim
  | decimal hw hf =>
    rw [List.append_assoc] at hmore
    exact (not_digits_of_head hw hdigit hmore).elim
  | single => simp

theorem length_pos_of_isDigits {digits : List Char} (h : Number.isDigits digits = true) :
    0 < digits.length := by
  obtain ⟨c, cs, rfl, -⟩ := isDigits_cons h
  exact Nat.succ_pos _

theorem longest_integer {digits rest : List Char} (hd : Number.isDigits digits = true)
    (hrest : Kind.integer.Ends rest) : Longest digits rest := by
  have hends : ∀ c ∈ rest.head?, c.isDigit = false ∧ c ≠ '.' := by
    intro c hc
    simpa [Kind.goesOn] using hrest c hc
  have hdigit : ∀ c ∈ rest.head?, c.isDigit = false := fun c hc => (hends c hc).1
  refine ⟨.integer hd, ?_⟩
  rintro longer hshape ⟨more, hmore⟩
  cases hshape with
  | word hc hrun => exact (not_word_of_isDigits hd hc hmore).elim
  | integer hd' => exact length_le_of_all (all_of_isDigits hd') hmore hdigit
  | @decimal whole fraction hw hf =>
    -- the point would have to stand where the digits end
    rw [List.append_assoc, List.cons_append] at hmore
    obtain ⟨-, hpoint⟩ :=
      eq_of_all (all_of_isDigits hw) (isDigit_point _) (all_of_isDigits hd) hdigit hmore
    exact absurd rfl (hends '.' (by rw [← hpoint]; rfl)).2
  | single => exact length_pos_of_isDigits hd

theorem longest_decimal {whole fraction rest : List Char} (hw : Number.isDigits whole = true)
    (hf : fraction.all Char.isDigit = true) (hrest : ∀ c ∈ rest.head?, c.isDigit = false) :
    Longest (whole ++ '.' :: fraction) rest := by
  refine ⟨.decimal hw hf, ?_⟩
  rintro longer hshape ⟨more, hmore⟩
  rw [List.append_assoc, List.cons_append] at hmore
  cases hshape with
  | word hc hrun => exact (not_word_of_isDigits hw hc hmore).elim
  | integer hd =>
    have hle := length_le_of_all (all_of_isDigits hd) hmore (isDigit_point _)
    rw [List.length_append]
    omega
  | @decimal whole' fraction' hw' hf' =>
    rw [List.append_assoc, List.cons_append] at hmore
    obtain ⟨rfl, htail⟩ := eq_of_all (all_of_isDigits hw') (isDigit_point _) (all_of_isDigits hw)
      (isDigit_point _) hmore
    have hle := length_le_of_all hf' (List.cons.inj htail).2 hrest
    simpa using hle
  | single =>
    simp only [List.length_append, List.length_cons, List.length_nil]
    omega

theorem longest_single {c : Char} (hs : isSpace c = false) (hd : c.isDigit = false)
    (ha : Text.isAlphabetic c = false) (rest : List Char) : Longest [c] rest := by
  refine ⟨.single hs, ?_⟩
  rintro longer hshape ⟨more, hmore⟩
  cases hshape with
  | word hc =>
    obtain ⟨rfl, -⟩ := List.cons.inj hmore
    rw [ha] at hc
    cases hc
  | integer hd' => exact (not_digits_of_head hd' hd hmore).elim
  | decimal hw =>
    rw [List.append_assoc] at hmore
    exact (not_digits_of_head hw hd hmore).elim
  | single => exact Nat.le_refl _

theorem ofWord_eq (word : List Char) (line : Nat) :
    ofWord word line = ⟨(ofWord word line).kind, line, (ofWord word line).text?⟩ := by
  unfold ofWord
  split <;> rfl

/-! ### Lexemes that are wrong -/

/-- What is wrong with a lexeme that is no token. -/
inductive Flaw : List Char → Cause → Prop
  | character {c} :
      c.isDigit = false → Text.isAlphabetic c = false → Kind.punctuation? c = none →
      Flaw [c] (.unrecognisedCharacter c)
  | tooGreat {digits} :
      Number.isDigits digits = true → 2 ^ 63 - 1 < Number.digitsValue digits →
      Flaw digits
        (.malformedNumber (String.ofList digits) "does not fit in a 64-bit integer")
  | noFraction {whole} :
      Number.isDigits whole = true →
      Flaw (whole ++ ['.'])
        (.malformedNumber (String.ofList (whole ++ ['.'])) "no digits after the decimal point")
  | longFraction {whole fraction} :
      Number.isDigits whole = true → fraction.all Char.isDigit = true → 5 < fraction.length →
      Flaw (whole ++ '.' :: fraction)
        (.malformedNumber (String.ofList (whole ++ '.' :: fraction))
          (toString fraction.length ++ " fractional digits, at most 5 allowed"))
  | infinite {whole fraction} :
      Number.isDigits whole = true → Number.isDigits fraction = true → fraction.length ≤ 5 →
      Number.readFiniteDouble? (String.ofList (whole ++ '.' :: fraction)) = none →
      Flaw (whole ++ '.' :: fraction)
        (.malformedNumber (String.ofList (whole ++ '.' :: fraction)) "too large for a double")

theorem flaw_of_integerText {digits : List Char} {cause : Cause}
    (hd : Number.isDigits digits = true) (h : integerText digits = .error cause) :
    Flaw digits cause := by
  unfold integerText at h
  simp only at h
  split at h
  · cases h
  · rename_i ha
    cases h
    rw [Ty.admits_int_iff hd, Nat.not_le] at ha
    exact .tooGreat hd ha

theorem flaw_of_decimalText {whole fraction : List Char} {cause : Cause}
    (hw : Number.isDigits whole = true) (hf : fraction.all Char.isDigit = true)
    (h : decimalText whole fraction = .error cause) : Flaw (whole ++ '.' :: fraction) cause := by
  unfold decimalText at h
  simp only at h
  split at h
  · rename_i hempty
    cases h
    obtain rfl := List.isEmpty_iff.mp hempty
    exact .noFraction hw
  · rename_i hne
    split at h
    · rename_i hlen
      cases h
      have hmost : " fractional digits, at most " ++ (toString maxFractionDigits ++ " allowed") =
          " fractional digits, at most 5 allowed" := by decide
      rw [String.append_assoc, String.append_assoc, hmost]
      exact .longFraction hw hf hlen
    · rename_i hlen
      split at h
      · cases h
      · rename_i ha
        cases h
        have hdigits : Number.isDigits fraction = true := by
          simpa [Number.isDigits, hf] using hne
        refine .infinite hw hdigits (Nat.le_of_not_lt hlen) ?_
        simpa [Ty.admits] using ha

end Token

/-! ### A call of the scanner -/

namespace Scanner

open Token

/-- What a call gives for a lexeme, and what it leaves. -/
inductive Answers (s : Scanner) (text rest : List Char) : Prop
  | token {kind text? r} :
      Lexeme text kind text? → s.next = (.ok ⟨kind, s.line, text?⟩, { s with reader := r }) →
      r.chars = rest → Answers s text rest
  | flaw {cause r} :
      Flaw text cause → s.next = (.error (s.diagnostic cause), { s with reader := r }) →
      r.chars = rest → Answers s text rest

theorem answers_number {s : Scanner} {c : Char} {cs : List Char} (hc : c.isDigit = true)
    (h : s.reader.chars = c :: cs) :
    ∃ text rest, c :: cs = text ++ rest ∧ Longest text rest ∧ s.Answers text rest := by
  obtain ⟨r, hnext, hr⟩ := next_digit hc h
  obtain ⟨whole, rest, hsplit, hdigits, hfront⟩ := exists_number hc cs
  have hall := all_of_isDigits hdigits
  rw [hsplit] at hr
  rcases hfront with ⟨fraction, behind, rfl, hfraction, hbehind⟩ | hends
  · obtain ⟨r', hnumber, hr'⟩ :=
      number_point (s := { s with reader := r }) hall hfraction hr hbehind
    refine ⟨whole ++ '.' :: fraction, behind, ?_, longest_decimal hdigits hfraction hbehind, ?_⟩
    · rw [hsplit, List.append_assoc, List.cons_append]
    · rw [hnumber] at hnext
      cases htext : decimalText whole fraction with
      | ok text =>
        rw [htext] at hnext
        exact .token (lexeme_of_decimalText hdigits hfraction htext) hnext hr'
      | error cause =>
        rw [htext] at hnext
        exact .flaw (flaw_of_decimalText hdigits hfraction htext) hnext hr'
  · obtain ⟨r', hnumber, hr'⟩ := number_integer (s := { s with reader := r }) hall hr hends
    refine ⟨whole, rest, hsplit, longest_integer hdigits hends, ?_⟩
    rw [hnumber] at hnext
    cases htext : integerText whole with
    | ok text =>
      rw [htext] at hnext
      exact .token (lexeme_of_integerText hdigits htext) hnext hr'
    | error cause =>
      rw [htext] at hnext
      exact .flaw (flaw_of_integerText hdigits htext) hnext hr'

theorem answers_word {s : Scanner} {c : Char} {cs : List Char} (hc : Text.isAlphabetic c = true)
    (h : s.reader.chars = c :: cs) :
    ∃ text rest, c :: cs = text ++ rest ∧ Longest text rest ∧ s.Answers text rest := by
  obtain ⟨run, rest, rfl, hall, hstop⟩ := exists_run isWordChar cs
  obtain ⟨r, hnext, hr⟩ := next_word hc hall h hstop
  refine ⟨c :: run, rest, rfl, longest_word hc hall hstop, ?_⟩
  rw [ofWord_eq] at hnext
  exact .token (lexeme_ofWord hc hall) hnext hr

/-- **A call passes the longest lexeme**, for a token or as something that is wrong. -/
theorem next_longest {s : Scanner} {c : Char} {cs : List Char} (hc : isSpace c = false)
    (h : s.reader.chars = c :: cs) :
    ∃ text rest, c :: cs = text ++ rest ∧ Longest text rest ∧ s.Answers text rest := by
  cases hd : c.isDigit with
  | true => exact answers_number hd h
  | false =>
    cases ha : Text.isAlphabetic c with
    | true => exact answers_word ha h
    | false =>
      obtain ⟨r, hnext, hr⟩ := next_sign hc hd ha h
      refine ⟨[c], cs, rfl, longest_single hc hd ha cs, ?_⟩
      cases hk : Kind.punctuation? c with
      | some kind =>
        rw [hk] at hnext
        exact .token (.punctuation hk) hnext hr
      | none =>
        rw [hk] at hnext
        exact .flaw (.character hd ha hk) hnext hr

end Scanner

end DeskCalc
