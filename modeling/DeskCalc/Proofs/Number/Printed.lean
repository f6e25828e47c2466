import DeskCalc.Proofs.Number.Decimal
import DeskCalc.Proofs.Number.Shortest
import Mathlib

/-!
The text of a double is read as infinity, as no number, or as a decimal that rounds to the double
(`readNumeral?_printDouble`). Main statement: doubles with one text have the same bits
(`printDouble_injective`).
-/

namespace DeskCalc.Number

open Float.Model.UnpackedFloat (pack_unpack_of_valid packedInfinity unpack)

/-! ### The parts of a double -/

namespace Binary

theorem normal_ofDouble (x : Float) : (Binary.ofDouble x).Normal := by
  unfold Binary.ofDouble
  simp only [Nat.pow_eq]
  split
  · refine ⟨?_, le_refl _, fun h => absurd rfl h⟩
    show x.toBits.toNat % 2 ^ 52 < 2 ^ 53
    omega
  · rename_i hexponent
    refine ⟨?_, ?_, fun _ => Nat.le_add_right _ _⟩
    · show 2 ^ 52 + x.toBits.toNat % 2 ^ 52 < 2 ^ 53
      omega
    · show -1074 ≤ ((x.toBits.toNat / 2 ^ 52 % 2 ^ 11 : ℕ) : ℤ) - 1075
      omega

/-- The magnitude of a finite double is written as a decimal that rounds to it. -/
theorem spells_write (b : Binary) : ∃ q, b.Rounds q ∧ Spells b.write q := by
  unfold Binary.write
  by_cases hzero : b.mantissa = 0
  · rw [if_pos hzero]
    refine ⟨0, ?_, ?_⟩
    · have hbelow : (0 : ℚ) ≤ b.below := Nat.cast_nonneg _
      refine ⟨?_, ?_, fun hodd => by omega⟩ <;> rw [hzero, zero_div] <;> push_cast <;> linarith
    · have hdigits : isDigits ['0'] = true := rfl
      have hfraction : ['0'].all Char.isDigit = true := rfl
      have h := spells_fixed hdigits hfraction
      have hvalue : digitsValue (['0'] ++ ['0']) = 0 := rfl
      rw [hvalue, Nat.cast_zero, zero_mul] at h
      exact h
  · rw [if_neg hzero]
    refine ⟨b.shortest.rational, rounds_shortest (by omega), ?_⟩
    rw [← Scaled.rational_trimmed]
    exact Scaled.spells_write _

end Binary

/-- The sign and the magnitude of a double are all of its bits. -/
theorem eq_of_parts {x y : Float} (hs : isNegative x = isNegative y)
    (hb : Binary.ofDouble x = Binary.ofDouble y) : x = y := by
  have hx := x.toBits.toNat_lt
  have hy := y.toBits.toNat_lt
  have hsign : 2 ^ 63 ≤ x.toBits.toNat ↔ 2 ^ 63 ≤ y.toBits.toNat := by
    simpa [isNegative] using hs
  rw [← Float.toBits_inj, ← UInt64.toNat_inj]
  unfold Binary.ofDouble at hb
  simp only [Nat.pow_eq] at hb
  generalize x.toBits.toNat = n at *
  generalize y.toBits.toNat = m at *
  split at hb <;> split at hb <;>
  · obtain ⟨hm, he⟩ := Binary.mk.inj hb
    omega

/-- An infinite double is known by its sign. -/
theorem ofDouble_of_isInf {x : Float} (h : x.isInf = true) :
    Binary.ofDouble x = ⟨2 ^ 52, 972⟩ := by
  have hbits : ∃ sign, x.toBits.toBitVec = packedInfinity .binary64 sign := by
    have hpack := pack_unpack_of_valid x.toModel.valid
    have hinf : (unpack .binary64 x.toModel.toBits.toBitVec).isInf = true := h
    cases hunpack : unpack .binary64 x.toModel.toBits.toBitVec with
    | infinity sign =>
      rw [hunpack] at hpack
      exact ⟨sign, hpack.symm⟩
    | notANumber | zero | finite =>
      rw [hunpack] at hinf
      cases hinf
  obtain ⟨sign, hsign⟩ := hbits
  have hnat : x.toBits.toNat = (packedInfinity .binary64 sign).toNat := congrArg BitVec.toNat hsign
  unfold Binary.ofDouble
  rw [hnat]
  cases sign <;> decide

theorem isFinite_of_not {x : Float} (hnan : ¬x.isNaN = true) (hinf : ¬x.isInf = true) :
    x.isFinite = true := by
  have hcases : ∀ u : Float.Model.UnpackedFloat,
      ¬u.isNaN = true → ¬u.isInf = true → u.isFinite = true := by
    intro u hn hi
    cases u with
    | notANumber => exact absurd rfl hn
    | infinity sign => exact absurd rfl hi
    | zero sign => rfl
    | finite => rfl
  exact hcases x.toModel.unpack hnan hinf

/-! ### The text of a double -/

/-- The numeral is that of the double: a finite one is a decimal that rounds to it. -/
def Numeral.StandsFor (x : Float) : Numeral → Prop
  | .finite d =>
    x.isFinite = true ∧ d.negative = isNegative x ∧ (Binary.ofDouble x).Rounds |d.rational|
  | .infinite negative => x.isInf = true ∧ negative = isNegative x
  | .notANumber => x.isNaN = true

/-- **No two doubles have one numeral.** -/
theorem Numeral.StandsFor.unique {n : Numeral} {x y : Float} (hx : n.StandsFor x)
    (hy : n.StandsFor y) : x = y := by
  cases n with
  | finite d =>
    have hb := hx.2.2.unique (Binary.normal_ofDouble x) (Binary.normal_ofDouble y) hy.2.2
    exact eq_of_parts (hx.2.1.symm.trans hy.2.1) hb
  | infinite negative =>
    have hb := (ofDouble_of_isInf hx.1).trans (ofDouble_of_isInf hy.1).symm
    exact eq_of_parts (hx.2.symm.trans hy.2) hb
  | notANumber =>
    have hnan : ∀ {z : Float}, z.isNaN = true → z = Float.nan := fun hz => by simpa using hz
    exact (hnan hx).trans (hnan hy).symm

theorem toLower_of_isDigit {c : Char} (h : c.isDigit = true) : c.toLower = c := by
  simp only [Char.isDigit, Bool.and_eq_true, decide_eq_true_eq] at h
  unfold Char.toLower
  rw [dif_neg]
  rintro ⟨hupper, -⟩
  have : (65 : UInt32) ≤ 57 := UInt32.le_trans hupper h.2
  exact absurd this (by decide)

theorem splitSign_of_isDigit {c : Char} (h : c.isDigit = true) (cs : List Char) :
    splitSign (c :: cs) = (false, c :: cs) := by
  apply splitSign_of_ne
  · rintro rfl
    cases h
  · rintro rfl
    cases h

theorem readNumeral?_of_spells {text : String} {negative : Bool} {cs : List Char} {q : ℚ}
    (hs : splitSign text.toList = (negative, cs)) (h : Spells cs q) :
    ∃ d, readNumeral? text = some (.finite d) ∧ d.negative = negative ∧ |d.rational| = q := by
  obtain ⟨d, hread, hsign, hvalue⟩ := h.read negative
  obtain ⟨c, rest, rfl, hc⟩ := h.head
  refine ⟨d, ?_, hsign, hvalue⟩
  have hletters : (c :: rest).map Char.toLower = c :: rest.map Char.toLower := by
    rw [List.map_cons, toLower_of_isDigit hc]
  have hword : ∀ {letter : Char} {letters : List Char}, letter.isDigit = false →
      c :: rest.map Char.toLower ≠ letter :: letters := by
    intro letter letters hletter heq
    rw [← (List.cons.inj heq).1, hc] at hletter
    cases hletter
  unfold readNumeral?
  rw [hs]
  simp only
  rw [hletters, if_neg, if_neg, hread]
  · rfl
  · exact hword rfl
  · rintro (heq | heq)
    · exact hword rfl heq
    · exact hword rfl heq

/-- **The text of a double is read as a numeral of it.** -/
theorem readNumeral?_printDouble (x : Float) :
    ∃ n, readNumeral? (printDouble x) = some n ∧ n.StandsFor x := by
  unfold printDouble
  by_cases hnan : x.isNaN = true
  · rw [if_pos hnan]
    exact ⟨.notANumber, by decide, hnan⟩
  · rw [if_neg hnan]
    by_cases hinf : x.isInf = true
    · rw [if_pos hinf]
      refine ⟨.infinite (isNegative x), ?_, hinf, rfl⟩
      cases isNegative x <;> decide
    · rw [if_neg hinf]
      obtain ⟨q, hrounds, hspells⟩ := (Binary.ofDouble x).spells_write
      have hsplit : splitSign ((if isNegative x then "-" else "") ++
          String.ofList (Binary.ofDouble x).write).toList =
            (isNegative x, (Binary.ofDouble x).write) := by
        rw [String.toList_append, String.toList_ofList]
        cases isNegative x with
        | true => rfl
        | false =>
          obtain ⟨c, rest, hwrite, hc⟩ := hspells.head
          rw [hwrite]
          exact splitSign_of_isDigit hc rest
      obtain ⟨d, hread, hsign, hvalue⟩ := readNumeral?_of_spells hsplit hspells
      exact ⟨.finite d, hread, isFinite_of_not hnan hinf, hsign, hvalue ▸ hrounds⟩

/-- **Doubles with one text are one double, bit by bit.** -/
theorem printDouble_injective : Function.Injective printDouble := by
  intro x y h
  obtain ⟨n, hx, hnx⟩ := readNumeral?_printDouble x
  obtain ⟨m, hy, hmy⟩ := readNumeral?_printDouble y
  rw [h, hy] at hx
  cases hx
  exact hnx.unique hmy

/-- Words with one text are one word. -/
theorem printWord_injective : Function.Injective printWord := by
  intro v w h
  have hv := readWord?_printWord v
  rw [h, readWord?_printWord w] at hv
  exact (Option.some.inj hv).symm

end DeskCalc.Number
