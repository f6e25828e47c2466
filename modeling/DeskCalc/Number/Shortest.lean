import DeskCalc.Number.Double

/-!
The shortest decimal that reads back as a given double: of all decimals in the interval of reals
that round to the double, one with the fewest digits, and of two with equally many the nearer one.
The interval, the value and the decimals are compared exactly, over a common denominator.
-/

namespace DeskCalc.Number

/-! ### The reals that round to a double -/

/-- The reals between two bounds around a value, all over one denominator. The bounds belong to the
interval if it is closed. -/
structure Interval where
  low : Nat
  value : Nat
  high : Nat
  denominator : Nat
  closed : Bool
  deriving Repr, DecidableEq

/-- The reals that round to a positive double. The gap to the next double is `2 ^ exponent`, and
the gap below a power of two is half as wide; half of each gap belongs to the double, its end
included if the mantissa is even. -/
def Interval.ofBinary (b : Binary) : Interval :=
  let below := if b.mantissa = Nat.pow 2 52 ∧ b.exponent ≠ -1074 then 1 else 2
  let scale := Nat.pow 2 (b.exponent - 2).toNat
  ⟨(4 * b.mantissa - below) * scale, 4 * b.mantissa * scale, (4 * b.mantissa + 2) * scale,
    Nat.pow 2 (2 - b.exponent).toNat, b.mantissa % 2 = 0⟩

/-- A positive decimal number `digits * 10 ^ exponent`. -/
structure Scaled where
  digits : Nat
  exponent : Int
  deriving Repr, DecidableEq

/-- The numerator of a decimal when its denominator is `d * 10 ^ k` with the `k` that its exponent
asks for. -/
def Scaled.numerator (s : Scaled) (d : Nat) : Nat :=
  s.digits * Nat.pow 10 s.exponent.toNat * d

/-- The decimal lies in the interval. -/
def Interval.holds (i : Interval) (s : Scaled) : Bool :=
  let n := s.numerator i.denominator
  let k := Nat.pow 10 (-s.exponent).toNat
  if i.closed then i.low * k ≤ n && n ≤ i.high * k else i.low * k < n && n < i.high * k

/-! ### Decimals next to the value -/

/-- The largest multiple of `10 ^ exponent` that is not above the value. -/
def Interval.floor (i : Interval) (exponent : Int) : Scaled :=
  ⟨i.value * Nat.pow 10 (-exponent).toNat / (i.denominator * Nat.pow 10 exponent.toNat), exponent⟩

/-- The next multiple of the same power of ten. -/
def Scaled.next (s : Scaled) : Scaled :=
  { s with digits := s.digits + 1 }

/-- The value is nearer to the multiple below it than to the next one. -/
def Interval.nearerBelow (i : Interval) (below : Scaled) : Bool :=
  2 * i.value * Nat.pow 10 (-below.exponent).toNat <
    below.numerator i.denominator + below.next.numerator i.denominator

/-- The multiple of `10 ^ exponent` that reads back: the one below the value or the next one, of
two the nearer, the next one on a tie. -/
def Interval.onGrid? (i : Interval) (exponent : Int) : Option Scaled :=
  let below := i.floor exponent
  let above := below.next
  if i.holds below && (!i.holds above || i.nearerBelow below) then some below
  else if i.holds above then some above
  else none

/-- The exponent of the leading digit of the value. -/
def Interval.leading (i : Interval) : Int :=
  if i.denominator ≤ i.value then digitCount (i.value / i.denominator) - 1
  else
    let k := digitCount (i.denominator / i.value) - 1
    if i.denominator ≤ i.value * Nat.pow 10 k then -k else -(k + 1)

/-- The first decimal that reads back on the grids from `exponent` downwards, `count` of them. -/
def Interval.search (i : Interval) : Nat → Int → Option Scaled
  | 0, _ => none
  | count + 1, exponent => i.onGrid? exponent <|> i.search count (exponent - 1)

/-- The value itself as a decimal. -/
def Binary.exact (b : Binary) : Scaled :=
  ⟨b.mantissa * Nat.pow 2 b.exponent.toNat * Nat.pow 5 (-b.exponent).toNat, -(-b.exponent).toNat⟩

/-- The shortest decimal that reads back as the positive number. Seventeen digits are always
enough; the value itself stands behind them. -/
def Binary.shortest (b : Binary) : Scaled :=
  let i := Interval.ofBinary b
  (i.search 17 i.leading).getD b.exact

/-! ### Trailing zeros -/

/-- The same number without zeros at the end of its digits. -/
def Scaled.trimmed (s : Scaled) : Scaled :=
  if h : s.digits ≠ 0 ∧ s.digits % 10 = 0 then
    Scaled.trimmed ⟨s.digits / 10, s.exponent + 1⟩
  else s
termination_by s.digits
decreasing_by show s.digits / 10 < s.digits; omega

end DeskCalc.Number
