import DeskCalc.Number.Shortest
import Mathlib.Data.Rat.Cast.Order
import Mathlib.Algebra.Order.Field.Power
import Mathlib.Tactic.FieldSimp
import Mathlib.Tactic.Linarith
import Mathlib.Tactic.Ring

/-!
Which decimals stand for a double. The numbers that round to a double lie between the middles of the gaps
next to it, and no number rounds to two doubles (`Binary.Rounds.unique`). Main statement: the shortest
decimal of a double rounds to it (`Binary.rounds_shortest`).
-/

namespace DeskCalc.Number

/-! ### Exact values -/

def Scaled.rational (s : Scaled) : ℚ :=
  s.digits * 10 ^ s.exponent

/-- Powers with a negative exponent are fractions. -/
theorem zpow_eq_div (a : ℚ) (e : ℤ) : a ^ e = a ^ e.toNat / a ^ (-e).toNat := by
  rcases le_total 0 e with h | h
  · lift e to ℕ using h
    simp
  · obtain ⟨n, rfl⟩ := Int.exists_eq_neg_ofNat h
    simp

theorem Scaled.rational_eq_div (s : Scaled) :
    s.rational = s.digits * 10 ^ s.exponent.toNat / 10 ^ (-s.exponent).toNat := by
  rw [Scaled.rational, zpow_eq_div, mul_div_assoc]

/-- Zeros at the end are moved into the power of ten. -/
theorem Scaled.rational_trimmed (s : Scaled) : s.trimmed.rational = s.rational := by
  fun_induction Scaled.trimmed with
  | case1 s h ih =>
    have hdigits : (s.digits : ℚ) = (s.digits / 10 : ℕ) * 10 := by
      exact_mod_cast (Nat.div_mul_cancel (Nat.dvd_of_mod_eq_zero h.2)).symm
    rw [ih, Scaled.rational, Scaled.rational, zpow_add_one₀ (by norm_num), hdigits]
    ring
  | case2 => rfl

/-! ### The numbers that round to a double -/

namespace Binary

/-- The parts of a finite double: at most 53 bits, and no fewer but for the smallest exponent. -/
structure Normal (b : Binary) : Prop where
  mantissa_lt : b.mantissa < 2 ^ 53
  le_exponent : -1074 ≤ b.exponent
  le_mantissa : b.exponent ≠ -1074 → 2 ^ 52 ≤ b.mantissa

/-- A quarter of the gap to the next double. -/
def quarter (b : Binary) : ℚ :=
  2 ^ (b.exponent - 2)

/-- The quarters between the double and the middle of the gap below it. -/
def below (b : Binary) : ℕ :=
  if b.mantissa = 2 ^ 52 ∧ b.exponent ≠ -1074 then 1 else 2

/-- The number rounds to the double. It is measured in quarters of the gap; the middles of the gaps round
to an even mantissa. -/
structure Rounds (b : Binary) (q : ℚ) : Prop where
  low : 4 * b.mantissa - b.below ≤ q / b.quarter
  high : q / b.quarter ≤ 4 * b.mantissa + 2
  inside : b.mantissa % 2 = 1 →
    4 * b.mantissa - b.below < q / b.quarter ∧ q / b.quarter < 4 * b.mantissa + 2

theorem quarter_pos (b : Binary) : 0 < b.quarter :=
  zpow_pos (by norm_num) _

theorem below_cases (b : Binary) :
    b.below = 1 ∧ b.mantissa = 2 ^ 52 ∧ b.exponent ≠ -1074 ∨
      b.below = 2 ∧ ¬(b.mantissa = 2 ^ 52 ∧ b.exponent ≠ -1074) := by
  unfold below
  split
  · rename_i h
    exact .inl ⟨rfl, h⟩
  · rename_i h
    exact .inr ⟨rfl, h⟩

variable {b b' : Binary} {q : ℚ}

/-- With one exponent, the interval of a smaller mantissa ends before that of a greater one, or the two
meet in a point that only the even one has. -/
theorem Rounds.mantissa_le (h : b.Rounds q) (h' : b'.Rounds q) (he : b.exponent = b'.exponent) :
    b'.mantissa ≤ b.mantissa := by
  by_contra! hlt
  have hquarter : b'.quarter = b.quarter := by rw [quarter, quarter, he]
  have hlow := h'.low
  rw [hquarter] at hlow
  have hbelow : (b'.below : ℚ) ≤ 2 := by
    rcases b'.below_cases with hb | hb <;> rw [hb.1] <;> norm_num
  have hnext : (b.mantissa : ℚ) + 1 ≤ b'.mantissa := by exact_mod_cast hlt
  have hhigh := h.high
  have hmeet : b'.mantissa = b.mantissa + 1 := by
    have : (b'.mantissa : ℚ) < b.mantissa + 2 := by linarith
    have : b'.mantissa < b.mantissa + 2 := by exact_mod_cast this
    omega
  rcases Nat.mod_two_eq_zero_or_one b.mantissa with heven | hodd
  · have hin := (h'.inside (by omega)).1
    rw [hquarter] at hin
    linarith
  · linarith [(h.inside hodd).2]

/-- The interval of a double ends before those of the doubles with a greater exponent, or it meets the
first of them in a point that only that one has. -/
theorem Rounds.exponent_le (hb : b.Normal) (hb' : b'.Normal) (h : b.Rounds q) (h' : b'.Rounds q) :
    b'.exponent ≤ b.exponent := by
  by_contra! hlt
  obtain ⟨k, hk⟩ := Int.le.dest (Int.add_one_le_of_lt hlt)
  have hmin : b'.exponent ≠ -1074 := by
    have := hb.le_exponent
    omega
  have hquarter : q / b.quarter = q / b'.quarter * (2 * 2 ^ k) := by
    have hpow : b'.quarter = b.quarter * (2 * 2 ^ k) := by
      rw [quarter, quarter, ← hk, ← zpow_natCast, ← zpow_one_add₀ (by norm_num),
        ← zpow_add₀ (by norm_num)]
      congr 1
      omega
    rw [hpow]
    have := b.quarter_pos
    field_simp
  have hk1 : (1 : ℚ) ≤ 2 ^ k := one_le_pow₀ (by norm_num)
  have hm : (b.mantissa : ℚ) + 1 ≤ 2 ^ 53 := by exact_mod_cast hb.mantissa_lt
  have hhigh := h.high
  have hlow := h'.low
  rw [hquarter] at hhigh
  rcases b'.below_cases with ⟨hone, hm', -⟩ | ⟨htwo, hm'⟩
  · -- the smallest mantissa: the gap below is the smaller one, and the intervals may meet
    rw [hone, hm'] at hlow
    push_cast at hlow
    have hdouble : q / b'.quarter * 2 ≤ q / b'.quarter * (2 * 2 ^ k) := by nlinarith
    have hodd : b.mantissa % 2 = 1 := by
      have : (2 : ℚ) ^ 53 - 1 ≤ b.mantissa := by linarith
      have : (2 : ℚ) ^ 53 ≤ b.mantissa + 1 := by linarith
      have : 2 ^ 53 ≤ b.mantissa + 1 := by exact_mod_cast this
      have := hb.mantissa_lt
      omega
    have hin := (h.inside hodd).2
    rw [hquarter] at hin
    linarith
  · have hle := hb'.le_mantissa hmin
    have hlt' : 2 ^ 52 + 1 ≤ b'.mantissa := by
      by_contra! hge
      exact hm' ⟨by omega, hmin⟩
    have hnext : (2 : ℚ) ^ 52 + 1 ≤ b'.mantissa := by exact_mod_cast hlt'
    rw [htwo] at hlow
    push_cast at hlow
    have hdouble : q / b'.quarter * 2 ≤ q / b'.quarter * (2 * 2 ^ k) := by nlinarith
    linarith

/-- **No number rounds to two doubles.** -/
theorem Rounds.unique (hb : b.Normal) (hb' : b'.Normal) (h : b.Rounds q) (h' : b'.Rounds q) :
    b = b' := by
  have he : b.exponent = b'.exponent :=
    le_antisymm (h'.exponent_le hb' hb h) (h.exponent_le hb hb' h')
  have hm : b.mantissa = b'.mantissa :=
    le_antisymm (h'.mantissa_le h he.symm) (h.mantissa_le h' he)
  cases b
  cases b'
  exact congrArg₂ _ hm he

end Binary

/-! ### The interval as it is computed -/

def Interval.Contains (i : Interval) (q : ℚ) : Prop :=
  if i.closed then i.low / i.denominator ≤ q ∧ q ≤ i.high / i.denominator
  else i.low / i.denominator < q ∧ q < i.high / i.denominator

/-- Decimals are compared with the bounds over a common denominator. -/
theorem Interval.holds_iff {i : Interval} (hd : 0 < i.denominator) (s : Scaled) :
    i.holds s = true ↔ i.Contains s.rational := by
  have hden : (0 : ℚ) < i.denominator := by exact_mod_cast hd
  have hpow : (0 : ℚ) < 10 ^ (-s.exponent).toNat := by positivity
  unfold Interval.holds Interval.Contains
  rw [s.rational_eq_div]
  simp only [div_le_div_iff₀ hden hpow, div_le_div_iff₀ hpow hden, div_lt_div_iff₀ hden hpow,
    div_lt_div_iff₀ hpow hden]
  split <;>
  · rw [Bool.and_eq_true, decide_eq_true_eq, decide_eq_true_eq]
    simp only [Scaled.numerator, Nat.pow_eq]
    norm_cast

namespace Binary

variable {b : Binary}

theorem denominator_ofBinary_pos (b : Binary) : 0 < (Interval.ofBinary b).denominator :=
  Nat.pow_pos (by decide)

/-- A bound of the interval is so many quarters of the gap. -/
theorem bound_eq (b : Binary) (n : ℕ) :
    ((n * Nat.pow 2 (b.exponent - 2).toNat : ℕ) : ℚ) / (Interval.ofBinary b).denominator =
      n * b.quarter := by
  rw [quarter, zpow_eq_div, neg_sub, ← mul_div_assoc]
  simp only [Interval.ofBinary, Nat.pow_eq, Nat.cast_mul, Nat.cast_pow, Nat.cast_ofNat]

/-- Only numbers that round to a positive double are in its interval. -/
theorem rounds_of_contains (hm : 0 < b.mantissa) {q : ℚ} (h : (Interval.ofBinary b).Contains q) :
    b.Rounds q := by
  have hbelow : b.below ≤ 4 * b.mantissa := by rcases b.below_cases with h | h <;> omega
  have hlow : ((Interval.ofBinary b).low : ℚ) / (Interval.ofBinary b).denominator =
      (4 * b.mantissa - b.below) * b.quarter := by
    refine (b.bound_eq (4 * b.mantissa - b.below)).trans ?_
    rw [Nat.cast_sub hbelow]
    norm_num
  have hhigh : ((Interval.ofBinary b).high : ℚ) / (Interval.ofBinary b).denominator =
      (4 * b.mantissa + 2) * b.quarter := by
    refine (b.bound_eq (4 * b.mantissa + 2)).trans ?_
    norm_num
  unfold Interval.Contains at h
  rw [hlow, hhigh, ← le_div_iff₀ b.quarter_pos, ← div_le_iff₀ b.quarter_pos,
    ← lt_div_iff₀ b.quarter_pos, ← div_lt_iff₀ b.quarter_pos] at h
  split at h
  · rename_i heven
    have heven' : b.mantissa % 2 = 0 := of_decide_eq_true heven
    exact ⟨h.1, h.2, fun hodd => by omega⟩
  · exact ⟨h.1.le, h.2.le, fun _ => h⟩

end Binary

/-! ### The search -/

theorem Interval.holds_of_onGrid? {i : Interval} {e : ℤ} {s : Scaled} (h : i.onGrid? e = some s) :
    i.holds s = true := by
  unfold Interval.onGrid? at h
  simp only at h
  split at h
  · rename_i hbelow
    cases h
    exact (Bool.and_eq_true_iff.mp hbelow).1
  · split at h
    · rename_i habove
      cases h
      exact habove
    · cases h

theorem Interval.holds_of_search {i : Interval} {count : ℕ} {e : ℤ} {s : Scaled}
    (h : i.search count e = some s) : i.holds s = true := by
  induction count generalizing e with
  | zero => cases h
  | succ count ih =>
    rw [Interval.search] at h
    cases hgrid : i.onGrid? e with
    | none =>
      rw [hgrid] at h
      exact ih h
    | some found =>
      rw [hgrid] at h
      cases h
      exact Interval.holds_of_onGrid? hgrid

namespace Binary

variable {b : Binary}

theorem rational_exact (b : Binary) : b.exact.rational = b.mantissa * 2 ^ b.exponent := by
  rw [Scaled.rational, zpow_eq_div 2]
  simp only [Binary.exact, Nat.pow_eq, zpow_neg, zpow_natCast, Nat.cast_mul, Nat.cast_pow,
    Nat.cast_ofNat]
  have hten : (10 : ℚ) ^ (-b.exponent).toNat =
      2 ^ (-b.exponent).toNat * 5 ^ (-b.exponent).toNat := by
    rw [← mul_pow]
    norm_num
  rw [hten]
  field_simp

/-- A double is the nearest to itself. -/
theorem rounds_exact (b : Binary) : b.Rounds b.exact.rational := by
  have hvalue : b.exact.rational / b.quarter = 4 * b.mantissa := by
    have hpow : (2 : ℚ) ^ b.exponent = 4 * b.quarter := by
      rw [quarter, zpow_sub₀ (by norm_num)]
      norm_num
      ring
    have := b.quarter_pos
    rw [rational_exact, hpow]
    field_simp
  have hbelow : (1 : ℚ) ≤ b.below := by
    rcases b.below_cases with h | h <;> rw [h.1] <;> norm_num
  refine ⟨?_, ?_, fun _ => ⟨?_, ?_⟩⟩ <;> rw [hvalue] <;> linarith

/-- **The shortest decimal of a positive double rounds to it.** -/
theorem rounds_shortest (hm : 0 < b.mantissa) : b.Rounds b.shortest.rational := by
  unfold Binary.shortest
  simp only
  cases hsearch : (Interval.ofBinary b).search 17 (Interval.ofBinary b).leading with
  | none => exact b.rounds_exact
  | some s =>
    have hholds := Interval.holds_of_search hsearch
    exact rounds_of_contains hm ((Interval.holds_iff b.denominator_ofBinary_pos s).mp hholds)

end Binary

end DeskCalc.Number
