import DeskCalc.Proofs.Dc.Words
import DeskCalc.Proofs.Outcome
import DeskCalc.Tree.Build
import Mathlib.Tactic.Ring
import Mathlib.Data.Rat.Cast.Order

/-!
Literals as numbers of the calculator. Numbers are compared as exact rationals: the number that the text
of a literal spells, sign and power of ten included, and the number that the calculator makes of what is
written for it. Every literal without a plus sign in front and without a power of ten is written
faithfully (`Ty.denotes_dcLiteral`); the others are not written as a number of the calculator at all
(`Dc.Denotes.plain`). Main statement: `literal_faithful_iff_plain`.
-/

namespace DeskCalc

/-! ### Numbers of the calculator -/

namespace Dc

/-- A number without a sign: digits with at most one point among or beside them. -/
inductive Magnitude : List Char → ℚ → Prop
  | whole {digits} : Number.isDigits digits = true → Magnitude digits (Number.digitsValue digits)
  | point {whole fraction} :
      whole.all Char.isDigit = true → fraction.all Char.isDigit = true → whole ++ fraction ≠ [] →
      Magnitude (whole ++ '.' :: fraction)
        (Number.digitsValue (whole ++ fraction) / 10 ^ fraction.length)

/-- The number that a text denotes to the calculator: `_` in front makes it negative. -/
inductive Denotes : List Char → ℚ → Prop
  | plain {cs q} : Magnitude cs q → Denotes cs q
  | negative {cs q} : Magnitude cs q → Denotes ('_' :: cs) (-q)

theorem Magnitude.mem {cs : List Char} {q : ℚ} (h : Magnitude cs q) :
    ∀ c ∈ cs, c.isDigit = true ∨ c = '.' := by
  have hdigits : ∀ {ds : List Char}, ds.all Char.isDigit = true →
      ∀ c ∈ ds, c.isDigit = true ∨ c = '.' :=
    fun hds c hc => .inl (List.all_eq_true.mp hds c hc)
  cases h with
  | whole hd =>
    rw [Number.isDigits, Bool.and_eq_true] at hd
    exact hdigits hd.2
  | point hw hf _ =>
    refine List.forall_mem_append.mpr ⟨hdigits hw, ?_⟩
    exact List.forall_mem_cons.mpr ⟨.inr rfl, hdigits hf⟩

/-- Neither a plus sign nor a letter is part of a number. -/
theorem Denotes.not_mem {cs : List Char} {q : ℚ} (h : Denotes cs q) {c : Char}
    (hd : c.isDigit = false) (hp : c ≠ '.') (hu : c ≠ '_') : c ∉ cs := by
  have hnot : ∀ {ds : List Char} {r : ℚ}, Magnitude ds r → c ∉ ds := by
    intro ds r hm hc
    rcases hm.mem c hc with hdigit | hpoint
    · rw [hd] at hdigit
      cases hdigit
    · exact hp hpoint
  cases h with
  | plain hm => exact hnot hm
  | negative hm =>
    intro hc
    rcases List.mem_cons.mp hc with hc | hc
    · exact hu hc
    · exact hnot hm hc

end Dc

/-! ### Numbers that literals spell -/

/-- The exact value of a decimal number. -/
def Number.Decimal.rational (d : Number.Decimal) : ℚ :=
  (if d.negative then -1 else 1) * d.mantissa * 10 ^ d.exponent

/-- The exact number that the text of a literal spells, before any rounding. -/
def Ty.rational? : Ty → String → Option ℚ
  | .int, text => (Number.readInteger? text.toList).map fun n => (n : ℚ)
  | .float, text =>
    match Number.readNumeral? text with
    | some (.finite d) => some d.rational
    | _ => none

/-- The text has no plus sign in front and no power of ten. -/
def PlainLiteral (text : String) : Prop :=
  text.toList.head? ≠ some '+' ∧ 'e' ∉ text.toList ∧ 'E' ∉ text.toList

/-- A text is a negative sign with a text behind it, which is written with the calculator's sign, or is
written as it is. -/
theorem dcLiteral_cases (text : String) :
    (∃ cs, text.toList = '-' :: cs ∧ (dcLiteral text).toList = '_' :: cs) ∨
      text.toList.head? ≠ some '-' ∧ dcLiteral text = text := by
  by_cases h : text.toList.head? = some '-'
  · obtain ⟨cs, hcs⟩ := List.head?_eq_some_iff.mp h
    refine .inl ⟨cs, hcs, ?_⟩
    have hwritten : dcLiteral text = "_" ++ String.ofList cs := by simp [dcLiteral, hcs]
    simp [hwritten]
  · exact .inr ⟨h, Dc.dcLiteral_eq h⟩

/-- What is written as a number of the calculator was plain. -/
theorem Dc.Denotes.plain_of_dcLiteral {text : String} {q : ℚ}
    (h : Denotes (dcLiteral text).toList q) : PlainLiteral text := by
  rcases dcLiteral_cases text with ⟨cs, htext, hwritten⟩ | ⟨-, heq⟩
  · rw [hwritten] at h
    have hletter : ∀ c : Char, c.isDigit = false → c ≠ '.' → c ≠ '_' → c ≠ '-' →
        c ∉ text.toList := by
      intro c hd hp hu hm hc
      rw [htext] at hc
      rcases List.mem_cons.mp hc with hc | hc
      · exact hm hc
      · exact h.not_mem hd hp hu (List.mem_cons_of_mem _ hc)
    refine ⟨by simp [htext], ?_, ?_⟩
    · exact hletter 'e' rfl (by decide) (by decide) (by decide)
    · exact hletter 'E' rfl (by decide) (by decide) (by decide)
  · rw [heq] at h
    refine ⟨fun hhead => ?_, ?_, ?_⟩
    · exact h.not_mem rfl (by decide) (by decide) (List.mem_of_mem_head? hhead)
    · exact h.not_mem rfl (by decide) (by decide)
    · exact h.not_mem rfl (by decide) (by decide)

/-! ### Plain literals -/

/-- The sign of a rational. -/
def signed (negative : Bool) (q : ℚ) : ℚ :=
  (if negative then -1 else 1) * q

/-- A plain text is a sign or none and a magnitude, whose sign is written in the calculator's way. -/
theorem PlainLiteral.split {text : String} (h : PlainLiteral text) :
    ∃ negative cs, Number.splitSign text.toList = (negative, cs) ∧ 'e' ∉ cs ∧ 'E' ∉ cs ∧
      ∀ q, Dc.Magnitude cs q → Dc.Denotes (dcLiteral text).toList (signed negative q) := by
  obtain ⟨hplus, he, hE⟩ := h
  rcases dcLiteral_cases text with ⟨cs, htext, hwritten⟩ | ⟨hminus, heq⟩
  · rw [htext] at he hE
    refine ⟨true, cs, by rw [htext]; rfl, ?_, ?_, fun q hq => ?_⟩
    · exact fun hc => he (List.mem_cons_of_mem _ hc)
    · exact fun hc => hE (List.mem_cons_of_mem _ hc)
    · have hsign : signed true q = -q := by simp [signed]
      rw [hwritten, hsign]
      exact .negative hq
  · refine ⟨false, text.toList, ?_, he, hE, fun q hq => ?_⟩
    · unfold Number.splitSign
      split
      · rename_i htext
        rw [htext] at hminus
        exact absurd rfl hminus
      · rename_i htext
        rw [htext] at hplus
        exact absurd rfl hplus
      · rfl
    · have hsign : signed false q = q := by simp [signed]
      rw [heq, hsign]
      exact .plain hq

theorem Number.magnitude_of_readInteger? {cs : List Char} {n : ℤ}
    (h : readInteger? cs = some n) {negative : Bool} {ds : List Char}
    (hs : splitSign cs = (negative, ds)) : ∃ q, Dc.Magnitude ds q ∧ (n : ℚ) = signed negative q := by
  unfold readInteger? at h
  rw [hs] at h
  simp only at h
  split at h
  · rename_i hd
    refine ⟨_, .whole hd, ?_⟩
    cases h
    cases negative <;> simp [signed]
  · cases h

/-- No power of ten is read where there is no letter for one. -/
theorem Number.eq_nil_of_readExponent? {cs : List Char} {e : ℤ} (h : readExponent? cs = some e)
    (hlower : 'e' ∉ cs) (hupper : 'E' ∉ cs) : cs = [] ∧ e = 0 := by
  cases cs with
  | nil =>
    cases h
    exact ⟨rfl, rfl⟩
  | cons c cs =>
    have hc : ¬(c = 'e' ∨ c = 'E') := by
      rintro (rfl | rfl)
      · exact hlower List.mem_cons_self
      · exact hupper List.mem_cons_self
    rw [readExponent?, if_neg hc] at h
    cases h

theorem Number.rational_eq (negative : Bool) (n k : ℕ) :
    Decimal.rational ⟨negative, n, 0 - k⟩ = signed negative (n / 10 ^ k) := by
  rw [Decimal.rational, signed, zero_sub, zpow_neg, zpow_natCast]
  ring

/-- An unsigned number is digits, with a point and further digits behind them or without, and then a power
of ten. -/
theorem Number.readUnsigned?_eq_some {negative : Bool} {cs : List Char} {d : Decimal}
    (h : readUnsigned? negative cs = some d) :
    ∃ whole fraction front rest e, cs = front ++ rest ∧
      (front = whole ++ '.' :: fraction ∨ front = whole ∧ fraction = []) ∧
      whole.all Char.isDigit = true ∧ fraction.all Char.isDigit = true ∧ whole ++ fraction ≠ [] ∧
      readExponent? rest = some e ∧
      d = ⟨negative, digitsValue (whole ++ fraction), e - fraction.length⟩ := by
  have hwhole : (cs.takeWhile Char.isDigit).all Char.isDigit = true := List.all_takeWhile
  have hsplit : cs.takeWhile Char.isDigit ++ cs.dropWhile Char.isDigit = cs :=
    List.takeWhile_append_dropWhile
  unfold readUnsigned? spanDigits at h
  simp only at h
  generalize cs.takeWhile Char.isDigit = whole at h hsplit hwhole
  generalize cs.dropWhile Char.isDigit = rest at h hsplit
  split at h
  · rename_i after
    simp only at h
    split at h
    · cases h
    · rename_i hne
      obtain ⟨e, he, rfl⟩ := Option.map_eq_some_iff.mp h
      refine ⟨whole, after.takeWhile Char.isDigit, _, after.dropWhile Char.isDigit, e, ?_, .inl rfl,
        hwhole, List.all_takeWhile, by simpa using hne, he, rfl⟩
      rw [List.append_assoc, List.cons_append, List.takeWhile_append_dropWhile, hsplit]
  · simp only at h
    split at h
    · cases h
    · rename_i hne
      obtain ⟨e, he, rfl⟩ := Option.map_eq_some_iff.mp h
      exact ⟨whole, [], whole, rest, e, hsplit.symm, .inr ⟨rfl, rfl⟩, hwhole, rfl,
        by simpa using hne, he, rfl⟩

theorem Number.magnitude_of_readUnsigned? {negative : Bool} {cs : List Char} {d : Decimal}
    (h : readUnsigned? negative cs = some d) (hlower : 'e' ∉ cs) (hupper : 'E' ∉ cs) :
    ∃ q, Dc.Magnitude cs q ∧ d.rational = signed negative q := by
  obtain ⟨whole, fraction, front, rest, e, rfl, hfront, hw, hf, hne, he, rfl⟩ :=
    readUnsigned?_eq_some h
  obtain ⟨rfl, rfl⟩ := eq_nil_of_readExponent? he (fun hc => hlower (List.mem_append_right _ hc))
    (fun hc => hupper (List.mem_append_right _ hc))
  rw [List.append_nil]
  rcases hfront with rfl | ⟨rfl, rfl⟩
  · exact ⟨_, .point hw hf hne, rational_eq ..⟩
  · rw [List.append_nil] at hne
    refine ⟨_, .whole (Token.isDigits_of_all hne hw), ?_⟩
    rw [rational_eq, List.append_nil, List.length_nil, pow_zero, div_one]

/-- The text of a finite double is that of a finite number. -/
theorem Number.readUnsigned?_of_finite {text : String} {negative : Bool} {cs : List Char}
    (h : (readFiniteDouble? text).isSome = true) (hs : splitSign text.toList = (negative, cs)) :
    ∃ d, readUnsigned? negative cs = some d ∧ readNumeral? text = some (.finite d) := by
  obtain ⟨x, hx⟩ := Option.isSome_iff_exists.mp h
  obtain ⟨hread, hfinite⟩ := Option.filter_eq_some_iff.mp hx
  obtain ⟨n, hn, rfl⟩ := Option.map_eq_some_iff.mp hread
  have hnumeral := hn
  unfold readNumeral? at hn
  rw [hs] at hn
  simp only at hn
  -- the words for what is not finite stand for doubles that are not finite
  split at hn
  · cases hn
    cases negative <;> exact absurd hfinite (by decide +kernel)
  · split at hn
    · cases hn
      exact absurd hfinite (by decide +kernel)
    · obtain ⟨d, hd, rfl⟩ := Option.map_eq_some_iff.mp hn
      exact ⟨d, hd, hnumeral⟩

/-- **A plain literal denotes the same number to the calculator.** -/
theorem Ty.denotes_dcLiteral {ty : Ty} {text : String} (ha : ty.admits text = true)
    (hp : PlainLiteral text) :
    ∃ q, Dc.Denotes (dcLiteral text).toList q ∧ ty.rational? text = some q := by
  obtain ⟨negative, cs, hs, hlower, hupper, hdenotes⟩ := hp.split
  cases ty with
  | int =>
    obtain ⟨w, hw⟩ := Option.isSome_iff_exists.mp ha
    obtain ⟨n, hn, -⟩ := Option.bind_eq_some_iff.mp hw
    obtain ⟨q, hq, hvalue⟩ := Number.magnitude_of_readInteger? hn hs
    refine ⟨_, hdenotes q hq, ?_⟩
    rw [rational?, hn, ← hvalue]
    rfl
  | float =>
    obtain ⟨d, hd, hnumeral⟩ := Number.readUnsigned?_of_finite ha hs
    obtain ⟨q, hq, hvalue⟩ := Number.magnitude_of_readUnsigned? hd hlower hupper
    refine ⟨_, hdenotes q hq, ?_⟩
    rw [rational?, hnumeral, ← hvalue]

theorem admits_of_buildNumber {text : String} {ty : Ty} {line : Nat} {e : Expr}
    (h : Expr.buildNumber text ty line = .ok e) : ty.admits text = true := by
  unfold Expr.buildNumber at h
  split at h
  · cases h
  · split at h
    · assumption
    · cases h

/-- **Which literals are written faithfully.** A number that can be built is written as one number of
the calculator with a space behind it, and that number is exactly the one that its text spells, if and
only if its text has no plus sign in front and no power of ten. -/
theorem literal_faithful_iff_plain {text : String} {ty : Ty} {line : Nat} {e : Expr}
    (h : Expr.buildNumber text ty line = .ok e) (precision : Nat) :
    (∃ w q, (Step.literal text ty).dcText precision = w ++ " " ∧ Dc.Denotes w.toList q ∧
      ty.rational? text = some q) ↔ PlainLiteral text := by
  constructor
  · rintro ⟨w, q, hw, hq, -⟩
    obtain rfl : dcLiteral text = w := by
      rw [← String.toList_inj] at hw ⊢
      rw [Step.dcText, String.toList_append, String.toList_append] at hw
      exact List.append_cancel_right hw
    exact hq.plain_of_dcLiteral
  · intro hp
    obtain ⟨q, hq, hr⟩ := Ty.denotes_dcLiteral (admits_of_buildNumber h) hp
    exact ⟨dcLiteral text, q, rfl, hq, hr⟩

/-- A negative decimal without digits before its point. -/
theorem literal_faithful_iff_plain_negative :
    Expr.buildNumber "-.25" .float 1 = .ok (.number "-.25" .float 1) ∧
      ∃ w q, (Step.literal "-.25" .float).dcText 20 = w ++ " " ∧ Dc.Denotes w.toList q ∧
        Ty.float.rational? "-.25" = some q := by
  have hbuilt : Expr.buildNumber "-.25" .float 1 = .ok (.number "-.25" .float 1) :=
    Except.eq_ok_of_toOption (by decide +kernel)
  refine ⟨hbuilt, (literal_faithful_iff_plain hbuilt 20).mpr ?_⟩
  exact ⟨by decide, by decide, by decide⟩

/-- A number with a plus sign in front is admitted, and is written with the plus sign. -/
theorem plus_literal_not_written_as_number :
    Expr.buildNumber "+5" .int 1 = .ok (.number "+5" .int 1) ∧
      (Step.literal "+5" .int).dcText 20 = "+5 " ∧ Ty.int.rational? "+5" = some 5 ∧
      ¬∃ q, Dc.Denotes "+5".toList q := by
  refine ⟨Except.eq_ok_of_toOption (by decide +kernel), by decide, ?_, ?_⟩
  · have hread : Number.readInteger? "+5".toList = some 5 := by decide
    rw [Ty.rational?, hread]
    rfl
  · rintro ⟨q, hq⟩
    exact hq.not_mem (c := '+') rfl (by decide) (by decide) (by decide)

end DeskCalc
