import DeskCalc.Token.Scanner

/-!
Lexemes: which characters make up a token of a kind, and which characters would make it longer if
they followed it. A token is genuine if it is made of a lexeme: the text of an integer token is then
a run of digits, that of a decimal token two runs with a point between them, both stand for numbers,
and there are genuine tokens of every kind but the end of input (`exists_genuine`).
-/

namespace DeskCalc

/-- The text is a number of the type as source texts spell it. -/
def Ty.Spells : Ty → List Char → Prop
  | .int, cs => Number.isDigits cs = true
  | .float, cs => ∃ whole fraction, cs = whole ++ '.' :: fraction ∧
      Number.isDigits whole = true ∧ Number.isDigits fraction = true

namespace Token

/-! ### Lexemes -/

/-- The characters are those of one token of the kind, which has the text. -/
inductive Lexeme : List Char → Kind → Option String → Prop
  | integer {digits} :
      Number.isDigits digits = true → Ty.int.admits (String.ofList digits) = true →
      Lexeme digits .integer (some (String.ofList digits))
  | decimal {whole fraction} :
      Number.isDigits whole = true → Number.isDigits fraction = true →
      fraction.length ≤ maxFractionDigits →
      Ty.float.admits (String.ofList (whole ++ '.' :: fraction)) = true →
      Lexeme (whole ++ '.' :: fraction) .decimal (some (String.ofList (whole ++ '.' :: fraction)))
  | keyword {word kind} : Kind.keyword? word = some kind → Lexeme word kind none
  | identifier {c word} :
      Text.isAlphabetic c = true → word.all isWordChar = true → Kind.keyword? (c :: word) = none →
      Lexeme (c :: word) .identifier (some (String.ofList (c :: word)))
  | punctuation {c kind} : Kind.punctuation? c = some kind → Lexeme [c] kind none

/-- A token of the kind would be longer if the character followed it. -/
def Kind.goesOn : Kind → Char → Bool
  | .integer, c => c.isDigit || c = '.'
  | .decimal, c => c.isDigit
  | .identifier, c | .intType, c | .floatType, c | .print, c => isWordChar c
  | _, _ => false

/-- A token of the kind ends before what follows. -/
def Kind.Ends (kind : Kind) (rest : List Char) : Prop :=
  ∀ c ∈ rest.head?, kind.goesOn c = false

theorem Kind.ends_nil (kind : Kind) : kind.Ends [] := by
  intro c hc
  cases hc

/-- Less text behind a token does not make it longer. -/
theorem Kind.Ends.front {kind : Kind} {front back : List Char} (h : kind.Ends (front ++ back)) :
    kind.Ends front := by
  intro c hc
  cases front with
  | nil => cases hc
  | cons d front => exact h c hc

/-- The character parts all tokens: none of them goes on with it. -/
def Parts (c : Char) : Prop := ∀ kind : Kind, kind.goesOn c = false

theorem parts_of {c : Char} (hd : c.isDigit = false) (hp : c ≠ '.') (hw : isWordChar c = false) :
    Parts c := by
  intro kind
  cases kind <;> simp [Kind.goesOn, hd, hp, hw]

theorem parts_of_isSpace {c : Char} (h : isSpace c = true) : Parts c := by
  simp only [isSpace, Bool.or_eq_true, decide_eq_true_eq] at h
  rcases h with ((rfl | rfl) | rfl) | rfl <;> exact parts_of (by decide) (by decide) (by decide)

theorem parts_semicolon : Parts ';' := parts_of (by decide) (by decide) (by decide)

theorem parts_closeParen : Parts ')' := parts_of (by decide) (by decide) (by decide)

theorem Parts.ends {c : Char} (h : Parts c) (kind : Kind) (rest : List Char) :
    kind.Ends (c :: rest) := by
  intro d hd
  cases hd
  exact h kind

/-! ### The first character of a lexeme -/

theorem keyword_cases {word : List Char} {kind : Kind} (h : Kind.keyword? word = some kind) :
    word = "int".toList ∧ kind = .intType ∨ word = "float".toList ∧ kind = .floatType ∨
      word = "print".toList ∧ kind = .print := by
  unfold Kind.keyword? at h
  split at h
  · cases h
    exact .inl ⟨by assumption, rfl⟩
  · split at h
    · cases h
      exact .inr (.inl ⟨by assumption, rfl⟩)
    · split at h
      · cases h
        exact .inr (.inr ⟨by assumption, rfl⟩)
      · cases h

theorem isDigits_cons {cs : List Char} (h : Number.isDigits cs = true) :
    ∃ c rest, cs = c :: rest ∧ c.isDigit = true ∧ rest.all Char.isDigit = true := by
  cases cs with
  | nil => cases h
  | cons c rest =>
    simp only [Number.isDigits, List.isEmpty_cons, Bool.not_false, Bool.true_and, List.all_cons,
      Bool.and_eq_true] at h
    exact ⟨c, rest, rfl, h⟩

theorem all_of_isDigits {cs : List Char} (h : Number.isDigits cs = true) :
    cs.all Char.isDigit = true := by
  obtain ⟨c, rest, rfl, hc, hrest⟩ := isDigits_cons h
  rw [List.all_cons, hc, hrest]
  rfl

theorem isDigits_of_all {cs : List Char} (hne : cs ≠ []) (h : cs.all Char.isDigit = true) :
    Number.isDigits cs = true := by
  rw [Number.isDigits, h, Bool.and_true, Bool.not_eq_true', List.isEmpty_eq_false_iff]
  exact hne

theorem not_isSpace_of_isDigit {c : Char} (h : c.isDigit = true) : isSpace c = false := by
  rw [Bool.eq_false_iff]
  intro hs
  simp only [isSpace, Bool.or_eq_true, decide_eq_true_eq] at hs
  rcases hs with ((rfl | rfl) | rfl) | rfl <;> exact absurd h (by decide)

theorem not_isSpace_of_isAlphabetic {c : Char} (h : Text.isAlphabetic c = true) :
    isSpace c = false := by
  rw [Bool.eq_false_iff]
  intro hs
  simp only [isSpace, Bool.or_eq_true, decide_eq_true_eq] at hs
  rcases hs with ((rfl | rfl) | rfl) | rfl <;> exact absurd h (by decide)

theorem not_isDigit_of_isAlphabetic {c : Char} (h : Text.isAlphabetic c = true) :
    c.isDigit = false := by
  rw [Bool.eq_false_iff]
  intro hd
  have hlt : c.toNat < 0x80 := by
    simp only [Char.isDigit, Bool.and_eq_true, decide_eq_true_eq] at hd
    have h9 : c.val ≤ 57 := hd.2
    have : c.toNat ≤ 57 := h9
    omega
  rw [Text.isAlphabetic_ascii hlt] at h
  unfold Char.isAlpha Char.isUpper Char.isLower at h
  unfold Char.isDigit at hd
  simp only [Bool.or_eq_true, Bool.and_eq_true, decide_eq_true_eq, ge_iff_le,
    UInt32.le_iff_toNat_le] at h hd
  have h9 : '9'.val.toNat = 57 := rfl
  have hA : 'A'.val.toNat = 65 := rfl
  have ha : 'a'.val.toNat = 97 := rfl
  omega

/-- A punctuation character is no space, no digit and no letter. -/
theorem punctuation_apart {c : Char} {kind : Kind} (h : Kind.punctuation? c = some kind) :
    isSpace c = false ∧ c.isDigit = false ∧ Text.isAlphabetic c = false := by
  unfold Kind.punctuation? at h
  split at h <;> cases h <;> exact ⟨by decide, by decide, by decide⟩

theorem goesOn_punctuation {c : Char} {kind : Kind} (h : Kind.punctuation? c = some kind)
    (d : Char) : kind.goesOn d = false := by
  unfold Kind.punctuation? at h
  split at h <;> cases h <;> rfl

/-! ### The kind of a lexeme -/

theorem category_keyword {word : List Char} {kind : Kind} (h : Kind.keyword? word = some kind) :
    kind.category = .keyword := by
  obtain ⟨-, rfl⟩ | ⟨-, rfl⟩ | ⟨-, rfl⟩ := keyword_cases h <;> rfl

theorem category_punctuation {c : Char} {kind : Kind} (h : Kind.punctuation? c = some kind) :
    kind.category = .operator ∨ kind.category = .delimiter := by
  unfold Kind.punctuation? at h
  split at h <;> cases h <;> simp [Kind.category]

namespace Lexeme

variable {lexeme : List Char} {kind : Kind} {text? : Option String}

theorem ne_endOfInput (h : Lexeme lexeme kind text?) : kind ≠ .endOfInput := by
  rintro rfl
  cases h with
  | keyword hk => exact absurd (category_keyword hk) (by decide)
  | punctuation hp => exact absurd (category_punctuation hp) (by decide)

theorem ne_nil (h : Lexeme lexeme kind text?) : lexeme ≠ [] := by
  cases h with
  | integer hd =>
    obtain ⟨c, rest, rfl, -⟩ := isDigits_cons hd
    exact List.cons_ne_nil _ _
  | decimal => exact List.append_ne_nil_of_right_ne_nil _ (List.cons_ne_nil _ _)
  | keyword hk =>
    rintro rfl
    cases hk
  | identifier => exact List.cons_ne_nil _ _
  | punctuation => exact List.cons_ne_nil _ _

theorem integer_inv (h : Lexeme lexeme .integer text?) :
    Number.isDigits lexeme = true ∧ Ty.int.admits (String.ofList lexeme) = true ∧
      text? = some (String.ofList lexeme) := by
  cases h with
  | integer hd ha => exact ⟨hd, ha, rfl⟩
  | keyword hk => exact absurd (category_keyword hk) (by decide)
  | punctuation hp => exact absurd (category_punctuation hp) (by decide)

theorem decimal_inv (h : Lexeme lexeme .decimal text?) :
    Ty.float.Spells lexeme ∧ Ty.float.admits (String.ofList lexeme) = true ∧
      text? = some (String.ofList lexeme) := by
  cases h with
  | decimal hw hf _ ha => exact ⟨⟨_, _, rfl, hw, hf⟩, ha, rfl⟩
  | keyword hk => exact absurd (category_keyword hk) (by decide)
  | punctuation hp => exact absurd (category_punctuation hp) (by decide)

theorem identifier_inv (h : Lexeme lexeme .identifier text?) :
    lexeme ≠ [] ∧ text? = some (String.ofList lexeme) := by
  cases h with
  | identifier => exact ⟨by simp, rfl⟩
  | keyword hk => exact absurd (category_keyword hk) (by decide)
  | punctuation hp => exact absurd (category_punctuation hp) (by decide)

end Lexeme

/-! ### Tokens that source texts can hold -/

/-- The token is made of the characters of some text. -/
def Genuine (t : Token) : Prop := ∃ lexeme, Lexeme lexeme t.kind t.text?

theorem Genuine.ne_endOfInput {t : Token} (h : t.Genuine) : t.kind ≠ .endOfInput := by
  obtain ⟨lexeme, hl⟩ := h
  exact hl.ne_endOfInput

/-- There are tokens of every kind on every line. -/
theorem exists_genuine {kind : Kind} (h : kind ≠ .endOfInput) (line : Nat) :
    ∃ t : Token, t.kind = kind ∧ t.line = line ∧ t.Genuine := by
  have hlexeme : ∃ lexeme text?, Lexeme lexeme kind text? := by
    cases kind with
    | endOfInput => exact absurd rfl h
    | integer => exact ⟨['0'], _, .integer (by decide) (by decide)⟩
    | decimal =>
      have hl : Lexeme (['0'] ++ '.' :: ['0']) .decimal _ :=
        .decimal (by decide) (by decide) (by decide) (by decide)
      exact ⟨_, _, hl⟩
    | identifier => exact ⟨['x'], _, .identifier (by decide) (by decide) (by decide)⟩
    | openParen => exact ⟨['('], _, .punctuation rfl⟩
    | closeParen => exact ⟨[')'], _, .punctuation rfl⟩
    | semicolon => exact ⟨[';'], _, .punctuation rfl⟩
    | assign => exact ⟨['='], _, .punctuation rfl⟩
    | plus => exact ⟨['+'], _, .punctuation rfl⟩
    | dash => exact ⟨['-'], _, .punctuation rfl⟩
    | star => exact ⟨['*'], _, .punctuation rfl⟩
    | slash => exact ⟨['/'], _, .punctuation rfl⟩
    | intType => exact ⟨"int".toList, _, .keyword (by decide)⟩
    | floatType => exact ⟨"float".toList, _, .keyword (by decide)⟩
    | print => exact ⟨"print".toList, _, .keyword (by decide)⟩
  obtain ⟨lexeme, text?, hl⟩ := hlexeme
  exact ⟨⟨kind, line, text?⟩, rfl, rfl, lexeme, hl⟩

/-- The text of an integer token is a run of digits that stands for an integer. -/
theorem Genuine.integer {t : Token} (h : t.Genuine) (hk : t.kind = .integer) :
    Ty.int.Spells t.text.toList ∧ Ty.int.admits t.text = true := by
  obtain ⟨lexeme, hl⟩ := h
  rw [hk] at hl
  obtain ⟨hd, ha, htext⟩ := hl.integer_inv
  rw [text, htext]
  exact ⟨by simpa [Ty.Spells] using hd, ha⟩

/-- The text of a decimal token is two runs of digits with a point between them, and stands for a
decimal number. -/
theorem Genuine.decimal {t : Token} (h : t.Genuine) (hk : t.kind = .decimal) :
    Ty.float.Spells t.text.toList ∧ Ty.float.admits t.text = true := by
  obtain ⟨lexeme, hl⟩ := h
  rw [hk] at hl
  obtain ⟨hs, ha, htext⟩ := hl.decimal_inv
  rw [text, htext]
  exact ⟨by simpa using hs, ha⟩

/-- An identifier has a name. -/
theorem Genuine.identifier {t : Token} (h : t.Genuine) (hk : t.kind = .identifier) :
    t.text ≠ "" := by
  obtain ⟨lexeme, hl⟩ := h
  rw [hk] at hl
  obtain ⟨hne, htext⟩ := hl.identifier_inv
  rw [text, htext]
  simpa using hne

/-! ### Tokens of numbers -/

/-- The text of a number token spells a number of its type. -/
def Lexed (t : Token) : Prop :=
  (t.kind = .integer → Ty.int.Spells t.text.toList) ∧
    (t.kind = .decimal → Ty.float.Spells t.text.toList)

theorem lexed_endOfInput (line : Nat) : (Token.mk .endOfInput line none).Lexed :=
  ⟨nofun, nofun⟩

theorem Genuine.lexed {t : Token} (h : t.Genuine) : t.Lexed :=
  ⟨fun hk => (h.integer hk).1, fun hk => (h.decimal hk).1⟩

/-! ### Runs of characters -/

theorem takeWhile_run {p : Char → Bool} {run rest : List Char} (hrun : run.all p = true)
    (hrest : ∀ c ∈ rest.head?, p c = false) : (run ++ rest).takeWhile p = run := by
  rw [List.takeWhile_append_of_pos (List.all_eq_true.mp hrun)]
  cases rest with
  | nil => simp
  | cons c rest => simp [hrest c rfl]

theorem dropWhile_run {p : Char → Bool} {run rest : List Char} (hrun : run.all p = true)
    (hrest : ∀ c ∈ rest.head?, p c = false) : (run ++ rest).dropWhile p = rest := by
  rw [List.dropWhile_append_of_pos (List.all_eq_true.mp hrun)]
  cases rest with
  | nil => rfl
  | cons c rest => simp [hrest c rfl]

theorem head_dropWhile {p : Char → Bool} (cs : List Char) :
    ∀ c ∈ (cs.dropWhile p).head?, p c = false := by
  intro c hc
  have hne : cs.dropWhile p ≠ [] := by
    intro h
    rw [h] at hc
    cases hc
  have hhead := List.head_dropWhile_not p hne
  rw [List.head?_eq_some_head hne] at hc
  cases hc
  exact hhead

/-- The characters of a class in front of a text. -/
theorem exists_run (p : Char → Bool) (cs : List Char) :
    ∃ run rest, cs = run ++ rest ∧ run.all p = true ∧ ∀ c ∈ rest.head?, p c = false :=
  ⟨cs.takeWhile p, cs.dropWhile p, List.takeWhile_append_dropWhile.symm, List.all_takeWhile,
    head_dropWhile cs⟩

/-- A text that begins with a digit has a number in front: digits, and behind them a point and any
further digits, or what does not go on with an integer. -/
theorem exists_number {c : Char} (hc : c.isDigit = true) (cs : List Char) :
    ∃ whole rest, c :: cs = whole ++ rest ∧ Number.isDigits whole = true ∧
      ((∃ fraction behind, rest = '.' :: (fraction ++ behind) ∧ fraction.all Char.isDigit = true ∧
          ∀ d ∈ behind.head?, d.isDigit = false) ∨
        Kind.integer.Ends rest) := by
  obtain ⟨run, rest, rfl, hall, hstop⟩ := exists_run Char.isDigit cs
  have hwhole : (c :: run).all Char.isDigit = true := by
    rw [List.all_cons, hc, hall]
    rfl
  refine ⟨c :: run, rest, rfl, isDigits_of_all (List.cons_ne_nil _ _) hwhole, ?_⟩
  by_cases hpoint : rest.head? = some '.'
  · obtain ⟨after, rfl⟩ := List.head?_eq_some_iff.mp hpoint
    obtain ⟨fraction, behind, rfl, hfraction⟩ := exists_run Char.isDigit after
    exact .inl ⟨fraction, behind, rfl, hfraction⟩
  · refine .inr fun d hd => ?_
    have hdot : d ≠ '.' := fun he => hpoint (he ▸ hd)
    simp [Kind.goesOn, hstop d hd, hdot]

/-! ### Texts of tokens -/

theorem lexeme_of_integerText {digits : List Char} {text : String}
    (hd : Number.isDigits digits = true) (h : integerText digits = .ok text) :
    Lexeme digits .integer (some text) := by
  unfold integerText at h
  simp only at h
  split at h
  · rename_i ha
    cases h
    exact .integer hd ha
  · cases h

theorem lexeme_of_decimalText {whole fraction : List Char} {text : String}
    (hw : Number.isDigits whole = true) (hf : fraction.all Char.isDigit = true)
    (h : decimalText whole fraction = .ok text) :
    Lexeme (whole ++ '.' :: fraction) .decimal (some text) := by
  unfold decimalText at h
  simp only at h
  split at h
  · cases h
  · rename_i hne
    split at h
    · cases h
    · rename_i hlen
      split at h
      · rename_i ha
        cases h
        exact .decimal hw (isDigits_of_all (by simpa using hne) hf) (Nat.le_of_not_lt hlen) ha
      · cases h

theorem stage_of_integerText {digits : List Char} :
    ∀ cause, integerText digits = .error cause → cause.stage = .lexical := by
  intro cause h
  unfold integerText at h
  simp only at h
  split at h <;> cases h
  rfl

theorem stage_of_decimalText {whole fraction : List Char} :
    ∀ cause, decimalText whole fraction = .error cause → cause.stage = .lexical := by
  intro cause h
  unfold decimalText at h
  simp only at h
  repeat' split at h
  all_goals
    cases h
    try rfl

/-- A word is a keyword or an identifier. -/
theorem lexeme_ofWord {c : Char} {word : List Char} {line : Nat} (hc : Text.isAlphabetic c = true)
    (hw : word.all isWordChar = true) :
    Lexeme (c :: word) (ofWord (c :: word) line).kind (ofWord (c :: word) line).text? := by
  unfold ofWord
  cases hk : Kind.keyword? (c :: word) with
  | some kind => exact .keyword hk
  | none => exact .identifier hc hw hk

theorem line_ofWord (word : List Char) (line : Nat) : (ofWord word line).line = line := by
  unfold ofWord
  split <;> rfl

theorem goesOn_ofWord (word : List Char) (line : Nat) (c : Char) :
    (ofWord word line).kind.goesOn c = isWordChar c := by
  unfold ofWord
  split
  · rename_i kind hk
    obtain ⟨-, rfl⟩ | ⟨-, rfl⟩ | ⟨-, rfl⟩ := keyword_cases hk <;> rfl
  · rfl

end Token

end DeskCalc
