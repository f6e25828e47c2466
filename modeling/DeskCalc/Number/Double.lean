import DeskCalc.Number.Decimal

/-!
Doubles: the double nearest to a decimal number, and the parts of a finite double, a whole number of
53 bits times a power of two.
-/

namespace DeskCalc.Number

/-! ### From decimal to binary -/

def digitCount (n : Nat) : Nat :=
  (Nat.toDigits 10 n).length

/-- The double nearest to the number without its sign, a tie going to the even one. Every number
from `10 ^ 310` on is above all doubles and every one below `10 ^ (-400)` is nearest to zero, so
only powers of ten between these are worked out. -/
def Decimal.magnitude (d : Decimal) : Float :=
  let point := digitCount d.mantissa + d.exponent
  if d.mantissa = 0 ∨ point < -400 then 0.0
  else if 310 < point then 1.0 / 0.0
  else if d.exponent < 0 then Float.ofScientific d.mantissa true d.exponent.natAbs
  else Float.ofScientific d.mantissa false d.exponent.natAbs

/-- The double nearest to a decimal number. -/
def Decimal.toDouble (d : Decimal) : Float :=
  if d.negative then -d.magnitude else d.magnitude

def Numeral.toDouble : Numeral → Float
  | .finite d => d.toDouble
  | .infinite negative => if negative then -(1.0 / 0.0) else 1.0 / 0.0
  | .notANumber => 0.0 / 0.0

def readDouble? (s : String) : Option Float :=
  (readNumeral? s).map Numeral.toDouble

def readFiniteDouble? (s : String) : Option Float :=
  (readDouble? s).filter Float.isFinite

/-- The double nearest to a word, a tie going to the even one. -/
def wordToDouble (w : Int64) : Float :=
  Float.ofInt w.toInt

/-! ### The parts of a double -/

/-- The number `mantissa * 2 ^ exponent`. -/
structure Binary where
  mantissa : Nat
  exponent : Int
  deriving Repr, DecidableEq

/-- The double is negative; zeros have a sign as well. -/
def isNegative (x : Float) : Bool :=
  Nat.pow 2 63 ≤ x.toBits.toNat

/-- The magnitude of a finite double: its fraction of 52 bits below a leading one, or without it
for the smallest exponent. -/
def Binary.ofDouble (x : Float) : Binary :=
  let exponent : Nat := x.toBits.toNat / Nat.pow 2 52 % Nat.pow 2 11
  let fraction : Nat := x.toBits.toNat % Nat.pow 2 52
  if exponent = 0 then ⟨fraction, -1074⟩ else ⟨Nat.pow 2 52 + fraction, exponent - 1075⟩

end DeskCalc.Number
