import DeskCalc.Number.Integer

/-!
Decimal numbers in text: an optional sign, digits with at most one point among or beside them, and
an optional power of ten. The value is kept exactly, as a whole number times a power of ten. The
words for infinity and for the number that is none are read as well, in any case of letters.
-/

namespace DeskCalc.Number

/-- The exact number `± mantissa * 10 ^ exponent`. -/
structure Decimal where
  negative : Bool
  mantissa : Nat
  exponent : Int
  deriving Repr, DecidableEq

/-- What the text of a floating point number can stand for. -/
inductive Numeral where
  | finite (d : Decimal)
  | infinite (negative : Bool)
  | notANumber
  deriving Repr, DecidableEq

/-- The power of ten at the end of a number: nothing, or the letter `e` and an integer. -/
def readExponent? : List Char → Option Int
  | [] => some 0
  | c :: cs => if c = 'e' ∨ c = 'E' then readInteger? cs else none

/-- The number without its sign: whole digits, a point and further digits, a power of ten. A digit
stands on at least one side of the point. -/
def readUnsigned? (negative : Bool) (cs : List Char) : Option Decimal :=
  let (whole, rest) := spanDigits cs
  let (fraction, rest) := match rest with
    | '.' :: cs => spanDigits cs
    | cs => ([], cs)
  if whole.isEmpty && fraction.isEmpty then none
  else (readExponent? rest).map fun e =>
    ⟨negative, digitsValue (whole ++ fraction), e - fraction.length⟩

/-- The number that a text stands for. -/
def readNumeral? (s : String) : Option Numeral :=
  let (negative, cs) := splitSign s.toList
  let letters := cs.map Char.toLower
  if letters = "inf".toList ∨ letters = "infinity".toList then some (.infinite negative)
  else if letters = "nan".toList then some .notANumber
  else (readUnsigned? negative cs).map .finite

end DeskCalc.Number
