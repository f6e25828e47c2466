import DeskCalc.Number.Printed
import DeskCalc.Proofs.Dc.Literal
import DeskCalc.Proofs.Number.Shortest

/-!
Numbers are read back from their text: an integer from its digits (`readInteger?_toString`), and a decimal
from positional or scientific form, with the value that it had (`Scaled.spells_write`).
-/

namespace DeskCalc.Number

/-! ### Runs of digits -/

theorem ne_nil_of_isDigits {cs : List Char} (h : isDigits cs = true) : cs ≠ [] := by
  rintro rfl
  cases h

theorem digitsValue_zeros_append (n : ℕ) (cs : List Char) :
    digitsValue (zeros n ++ cs) = digitsValue cs := by
  have h : Nat.ofDigitChars 10 (zeros n) 0 = 0 := by simp [zeros]
  exact (Nat.ofDigitChars_append 0).trans (by rw [h]; rfl)

theorem digitsValue_append_zeros (cs : List Char) (n : ℕ) :
    digitsValue (cs ++ zeros n) = 10 ^ n * digitsValue cs :=
  (Nat.ofDigitChars_append 0).trans Nat.ofDigitChars_replicate_zero

theorem digitsValue_toDigits (n : ℕ) : digitsValue (Nat.toDigits 10 n) = n :=
  Nat.ofDigitChars_ten_toDigits

theorem isDigits_toDigits (n : ℕ) : isDigits (Nat.toDigits 10 n) = true := by
  rw [← Dc.toList_toString]
  exact Dc.isDigits_toString n

theorem all_isDigit_zeros (n : ℕ) : (zeros n).all Char.isDigit = true := by
  rw [List.all_eq_true]
  intro c hc
  rw [List.eq_of_mem_replicate hc]
  rfl

theorem spanDigits_append {ds rest : List Char} (hds : ds.all Char.isDigit = true)
    (hrest : ∀ c ∈ rest.head?, c.isDigit = false) : spanDigits (ds ++ rest) = (ds, rest) := by
  rw [spanDigits, Token.takeWhile_run hds hrest, Token.dropWhile_run hds hrest]

/-! ### Integers -/

/-- An integer is read back from its text. -/
theorem readInteger?_toString (n : ℤ) : readInteger? (toString n).toList = some n := by
  cases n with
  | ofNat n =>
    have htext : (toString (Int.ofNat n)).toList = Nat.toDigits 10 n := Dc.toList_toString n
    rw [htext, readInteger?_digits (isDigits_toDigits n), digitsValue_toDigits]
    rfl
  | negSucc n =>
    have htext : (toString (Int.negSucc n)).toList = '-' :: Nat.toDigits 10 (n + 1) := by
      have hsign : toString (Int.negSucc n) = "-" ++ toString (n + 1) := rfl
      rw [hsign, String.toList_append, Dc.toList_toString]
      rfl
    rw [htext]
    simp only [readInteger?, splitSign, isDigits_toDigits, digitsValue_toDigits, if_true]
    rfl

/-- A word is read back from its text. -/
theorem readWord?_printWord (w : Int64) : readWord? (printWord w) = some w := by
  rw [readWord?, printWord, readInteger?_toString, Option.bind_some, word?_toInt]

/-! ### Decimals -/

/-- The text begins with a digit and is read as a number of this size, whatever its sign is. -/
structure Spells (cs : List Char) (q : ℚ) : Prop where
  head : ∃ c rest, cs = c :: rest ∧ c.isDigit = true
  read : ∀ negative, ∃ d, readUnsigned? negative cs = some d ∧ d.negative = negative ∧ |d.rational| = q

theorem Decimal.abs_rational (d : Decimal) : |d.rational| = d.mantissa * 10 ^ d.exponent := by
  have hsize : (0 : ℚ) ≤ d.mantissa * 10 ^ d.exponent := by positivity
  rw [Decimal.rational, mul_assoc]
  split
  · rw [neg_one_mul, abs_neg, abs_of_nonneg hsize]
  · rw [one_mul, abs_of_nonneg hsize]

theorem head_of_readExponent? {rest : List Char} {e : ℤ} (h : readExponent? rest = some e) :
    ∀ c ∈ rest.head?, c.isDigit = false ∧ c ≠ '.' := by
  intro c hc
  obtain ⟨cs, rfl⟩ := List.head?_eq_some_iff.mp hc
  rw [readExponent?] at h
  split at h
  · rename_i hletter
    rcases hletter with rfl | rfl <;> exact ⟨rfl, by decide⟩
  · cases h

theorem exists_head_of_isDigits {ds : List Char} (h : isDigits ds = true) (more : List Char) :
    ∃ c rest, ds ++ more = c :: rest ∧ c.isDigit = true := by
  obtain ⟨c, rest, rfl, hc, -⟩ := Token.isDigits_cons h
  exact ⟨c, rest ++ more, rfl, hc⟩

variable {whole fraction rest : List Char} {e : ℤ}

theorem spells_whole (hw : isDigits whole = true) (he : readExponent? rest = some e) :
    Spells (whole ++ rest) (digitsValue whole * 10 ^ e) := by
  have hstop := head_of_readExponent? he
  have hne := ne_nil_of_isDigits hw
  have hall := Token.all_of_isDigits hw
  refine ⟨exists_head_of_isDigits hw rest, fun negative => ?_⟩
  have hread : readUnsigned? negative (whole ++ rest) = some ⟨negative, digitsValue whole, e⟩ := by
    unfold readUnsigned?
    rw [spanDigits_append hall fun c hc => (hstop c hc).1]
    simp only
    split
    · exact absurd rfl (hstop '.' rfl).2
    · simp [hne, he]
  exact ⟨_, hread, rfl, Decimal.abs_rational _⟩

theorem spells_point (hw : isDigits whole = true) (hf : fraction.all Char.isDigit = true)
    (he : readExponent? rest = some e) :
    Spells (whole ++ '.' :: (fraction ++ rest))
      (digitsValue (whole ++ fraction) * 10 ^ (e - fraction.length)) := by
  have hstop := head_of_readExponent? he
  have hne := ne_nil_of_isDigits hw
  have hall := Token.all_of_isDigits hw
  refine ⟨exists_head_of_isDigits hw _, fun negative => ?_⟩
  have hread : readUnsigned? negative (whole ++ '.' :: (fraction ++ rest)) =
      some ⟨negative, digitsValue (whole ++ fraction), e - fraction.length⟩ := by
    unfold readUnsigned?
    rw [spanDigits_append hall fun c hc => by cases hc; rfl]
    simp only
    rw [spanDigits_append hf fun c hc => (hstop c hc).1]
    simp [hne, he]
  exact ⟨_, hread, rfl, Decimal.abs_rational _⟩

/-- Without a power of ten only the digits behind the point have to be counted. -/
theorem spells_fixed (hw : isDigits whole = true) (hf : fraction.all Char.isDigit = true) :
    Spells (whole ++ '.' :: fraction)
      (digitsValue (whole ++ fraction) * 10 ^ (-fraction.length : ℤ)) := by
  have hrest : readExponent? [] = some 0 := rfl
  have h := spells_point hw hf hrest
  rw [List.append_nil, zero_sub] at h
  exact h

variable {ds : List Char}

/-- Positional notation, wherever the point stands. -/
theorem spells_writePositional (hds : isDigits ds = true) (point : ℤ) :
    Spells (writePositional ds point) (digitsValue ds * 10 ^ (point - ds.length)) := by
  have hne := ne_nil_of_isDigits hds
  have hall := Token.all_of_isDigits hds
  have hmem : ∀ c ∈ ds, c.isDigit = true := List.all_eq_true.mp hall
  unfold writePositional
  by_cases hpoint : point ≤ 0
  · -- all digits stand behind the point
    have hzero : isDigits ['0'] = true := rfl
    have hfraction : (zeros (-point).toNat ++ ds).all Char.isDigit = true := by
      rw [List.all_append, all_isDigit_zeros, hall]
      rfl
    have hvalue : digitsValue (['0'] ++ (zeros (-point).toNat ++ ds)) = digitsValue ds :=
      (digitsValue_zeros_append 1 _).trans (digitsValue_zeros_append _ ds)
    have hlength : -((zeros (-point).toNat ++ ds).length : ℤ) = point - ds.length := by
      rw [List.length_append, zeros, List.length_replicate]
      omega
    rw [if_pos hpoint, ← hvalue, ← hlength]
    exact spells_fixed hzero hfraction
  · rw [if_neg hpoint]
    by_cases hlength : ds.length ≤ point.toNat
    · -- all digits stand before the point
      have hwhole : isDigits (ds ++ zeros (point.toNat - ds.length)) = true := by
        apply Token.isDigits_of_all (List.append_ne_nil_of_left_ne_nil hne _)
        rw [List.all_append, all_isDigit_zeros, hall]
        rfl
      have hzero : (zeros 1).all Char.isDigit = true := rfl
      have h := spells_fixed hwhole hzero
      have hvalue : (digitsValue (ds ++ zeros (point.toNat - ds.length) ++ zeros 1) : ℚ) *
          10 ^ (-(zeros 1).length : ℤ) = digitsValue ds * 10 ^ (point - ds.length) := by
        have hexponent : point - ds.length = (point.toNat - ds.length : ℕ) := by omega
        rw [digitsValue_append_zeros, digitsValue_append_zeros, hexponent, zpow_natCast]
        simp [zeros]
        ring
      rw [hvalue, List.append_assoc] at h
      rw [if_pos hlength, List.append_assoc]
      exact h
    · -- the point stands among the digits
      have hwhole : isDigits (ds.take point.toNat) = true := by
        apply Token.isDigits_of_all
        · intro hnil
          rcases List.take_eq_nil_iff.mp hnil with hzero | hnil
          · omega
          · exact hne hnil
        · exact List.all_eq_true.mpr fun c hc => hmem c (List.mem_of_mem_take hc)
      have hfraction : (ds.drop point.toNat).all Char.isDigit = true :=
        List.all_eq_true.mpr fun c hc => hmem c (List.mem_of_mem_drop hc)
      have h := spells_fixed hwhole hfraction
      have hbehind : -((ds.drop point.toNat).length : ℤ) = point - ds.length := by
        rw [List.length_drop]
        omega
      rw [List.take_append_drop, hbehind] at h
      rw [if_neg hlength, List.append_assoc]
      exact h

/-- Scientific notation. -/
theorem spells_writeScientific (hds : isDigits ds = true) (exponent : ℤ) :
    Spells (writeScientific ds exponent) (digitsValue ds * 10 ^ (exponent - (ds.length - 1))) := by
  have hread : readExponent? ('e' :: (toString exponent).toList) = some exponent := by
    rw [readExponent?, if_pos (.inl rfl), readInteger?_toString]
  obtain ⟨c, fraction, rfl, hc, hfraction⟩ := Token.isDigits_cons hds
  have hwhole : isDigits [c] = true := by
    refine Token.isDigits_of_all (List.cons_ne_nil c []) ?_
    rw [List.all_cons, hc]
    rfl
  have hlength : ((c :: fraction).length : ℤ) - 1 = fraction.length := by
    rw [List.length_cons]
    push_cast
    ring
  rw [hlength]
  cases fraction with
  | nil =>
    have h := spells_whole hwhole hread
    rw [List.length_nil, Nat.cast_zero, sub_zero]
    exact h
  | cons f fraction => exact spells_point hwhole hfraction hread

/-- A decimal number is read back from its text. -/
theorem Scaled.spells_write (s : Scaled) : Spells s.write s.rational := by
  have hds := isDigits_toDigits s.digits
  have hvalue := digitsValue_toDigits s.digits
  unfold Scaled.write
  simp only
  split
  · have h := spells_writePositional hds ((Nat.toDigits 10 s.digits).length - 1 + s.exponent + 1)
    have hexponent : ((Nat.toDigits 10 s.digits).length : ℤ) - 1 + s.exponent + 1 -
        (Nat.toDigits 10 s.digits).length = s.exponent := by ring
    rw [hvalue, hexponent] at h
    exact h
  · have h := spells_writeScientific hds ((Nat.toDigits 10 s.digits).length - 1 + s.exponent)
    have hexponent : ((Nat.toDigits 10 s.digits).length : ℤ) - 1 + s.exponent -
        ((Nat.toDigits 10 s.digits).length - 1) = s.exponent := by ring
    rw [hvalue, hexponent] at h
    exact h

/-! ### No blanks in numbers -/

theorem not_isWhitespace_of_all {ds : List Char} (h : ds.all Char.isDigit = true) :
    ∀ c ∈ ds, c.isWhitespace = false := by
  intro c hc
  rw [List.all_eq_true] at h
  exact Dc.isWhitespace_of_class rfl (h c hc)

theorem not_isWhitespace_of_splitSign {cs ds : List Char} {negative : Bool}
    (h : splitSign cs = (negative, ds)) (hds : ∀ c ∈ ds, c.isWhitespace = false) :
    ∀ c ∈ cs, c.isWhitespace = false := by
  unfold splitSign at h
  split at h <;> cases h
  · exact List.forall_mem_cons.mpr ⟨rfl, hds⟩
  · exact List.forall_mem_cons.mpr ⟨rfl, hds⟩
  · exact hds

theorem not_isWhitespace_of_readInteger? {cs : List Char} {n : ℤ} (h : readInteger? cs = some n) :
    ∀ c ∈ cs, c.isWhitespace = false := by
  unfold readInteger? at h
  cases hs : splitSign cs with
  | mk negative ds =>
    rw [hs] at h
    simp only at h
    split at h
    · rename_i hds
      exact not_isWhitespace_of_splitSign hs (not_isWhitespace_of_all (Token.all_of_isDigits hds))
    · cases h

theorem not_isWhitespace_of_readUnsigned? {negative : Bool} {cs : List Char} {d : Decimal}
    (h : readUnsigned? negative cs = some d) : ∀ c ∈ cs, c.isWhitespace = false := by
  obtain ⟨whole, fraction, front, rest, e, rfl, hfront, hw, hf, -, he, -⟩ := readUnsigned?_eq_some h
  refine List.forall_mem_append.mpr ⟨?_, ?_⟩
  · have hwhole := not_isWhitespace_of_all hw
    have hfraction := not_isWhitespace_of_all hf
    rcases hfront with rfl | ⟨rfl, rfl⟩
    · exact List.forall_mem_append.mpr ⟨hwhole, List.forall_mem_cons.mpr ⟨rfl, hfraction⟩⟩
    · exact hwhole
  · cases rest with
    | nil => simp
    | cons c rest =>
      rw [readExponent?] at he
      split at he
      · rename_i hletter
        refine List.forall_mem_cons.mpr ⟨?_, not_isWhitespace_of_readInteger? he⟩
        rcases hletter with rfl | rfl <;> rfl
      · cases he

/-- What is read as a number has no blank in it. -/
theorem not_isWhitespace_of_readNumeral? {text : String} {n : Numeral}
    (h : readNumeral? text = some n) : ∀ c ∈ text.toList, c.isWhitespace = false := by
  unfold readNumeral? at h
  cases hs : splitSign text.toList with
  | mk negative cs =>
    refine not_isWhitespace_of_splitSign hs ?_
    rw [hs] at h
    simp only at h
    -- a blank is no capital, so that it would stay among the letters
    have hletters : ∀ {word : String}, word.toList.all (fun c => !c.isWhitespace) = true →
        cs.map Char.toLower = word.toList → ∀ c ∈ cs, c.isWhitespace = false := by
      intro word hword heq c hc
      have hmem : c.toLower ∈ word.toList := heq ▸ List.mem_map_of_mem hc
      exact Dc.isWhitespace_of_class (p := fun c => !c.toLower.isWhitespace) rfl
        (List.all_eq_true.mp hword _ hmem)
    split at h
    · rename_i hword
      rcases hword with hword | hword <;> exact hletters (by decide) hword
    · split at h
      · rename_i hword
        exact hletters (by decide) hword
      · obtain ⟨d, hd, -⟩ := Option.map_eq_some_iff.mp h
        exact not_isWhitespace_of_readUnsigned? hd

end DeskCalc.Number
