import DeskCalc.Tree.Literal
import Mathlib.Algebra.Group.Nat.Defs

/-!
Runs of decimal digits as numbers: a run has no sign in front, stands for its value, and is admitted as
an integer if the value fits into a word (`admits_int_iff`).
-/

namespace DeskCalc

namespace Number

/-- A run of digits has no sign in front. -/
theorem head_digits {cs : List Char} (h : isDigits cs = true) :
    ∃ c rest, cs = c :: rest ∧ c ≠ '-' ∧ c ≠ '+' := by
  cases cs with
  | nil => cases h
  | cons c cs =>
    have hc : c.isDigit = true := by
      simp only [isDigits, Bool.and_eq_true, List.all_cons] at h
      exact h.2.1
    refine ⟨c, cs, rfl, ?_, ?_⟩ <;>
    · rintro rfl
      cases hc

theorem splitSign_of_ne {c : Char} (hminus : c ≠ '-') (hplus : c ≠ '+') (cs : List Char) :
    splitSign (c :: cs) = (false, c :: cs) := by
  unfold splitSign
  split
  · rename_i heq
    exact absurd (List.cons.inj heq).1 hminus
  · rename_i heq
    exact absurd (List.cons.inj heq).1 hplus
  · rfl

theorem splitSign_digits {cs : List Char} (h : isDigits cs = true) : splitSign cs = (false, cs) := by
  obtain ⟨c, rest, rfl, hminus, hplus⟩ := head_digits h
  exact splitSign_of_ne hminus hplus rest

theorem readInteger?_digits {cs : List Char} (h : isDigits cs = true) :
    readInteger? cs = some (digitsValue cs : Int) := by
  simp only [readInteger?, splitSign_digits h, h, if_true, Bool.false_eq_true, if_false]

theorem readWord?_digits {text : String} (h : isDigits text.toList = true) :
    readWord? text = word? (digitsValue text.toList) := by
  rw [readWord?, readInteger?_digits h, Option.bind_some]

theorem word?_isSome_iff {n : Int} : (word? n).isSome = true ↔ fitsWord n = true := by
  unfold word?
  split <;> simp_all

end Number

/-- Digits are admitted as an integer if their value is at most the greatest word. -/
theorem Ty.admits_int_iff {digits : List Char} (h : Number.isDigits digits = true) :
    Ty.int.admits (String.ofList digits) = true ↔ Number.digitsValue digits ≤ 2 ^ 63 - 1 := by
  have hdigits : Number.isDigits (String.ofList digits).toList = true := by
    rw [String.toList_ofList]
    exact h
  have hmin : Int64.minValue.toInt = -2 ^ 63 := by decide
  have hmax : Int64.maxValue.toInt = 2 ^ 63 - 1 := by decide
  rw [Ty.admits, Number.readWord?_digits hdigits, String.toList_ofList, Number.word?_isSome_iff,
    Number.fitsWord_iff, hmin, hmax]
  omega

end DeskCalc
