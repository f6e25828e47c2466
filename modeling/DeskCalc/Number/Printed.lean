import DeskCalc.Number.Shortest

/-!
The text of numbers. A word is written in decimal. A double is written with the fewest digits that
read back as it: with a point and at least one digit behind it when its size is moderate, and
otherwise as a number below ten with a power of ten.
-/

namespace DeskCalc.Number

/-- Where positional notation begins and ends: a number is written positionally when the exponent
of its leading digit is at least `least` and below `bound`. -/
structure Positional where
  least : Int
  bound : Int
  deriving Repr, DecidableEq

/-- Positional notation is for numbers from a ten-thousandth to below `10 ^ 16`. -/
def positional : Positional := ⟨-4, 16⟩

def zeros (n : Nat) : List Char :=
  List.replicate n '0'

/-- Digits with the point behind the first `point` of them, filled up with zeros on either side so
that a digit stands before and behind it. -/
def writePositional (digits : List Char) (point : Int) : List Char :=
  if point ≤ 0 then ['0', '.'] ++ zeros (-point).toNat ++ digits
  else if digits.length ≤ point.toNat then
    digits ++ zeros (point.toNat - digits.length) ++ ['.', '0']
  else digits.take point.toNat ++ ['.'] ++ digits.drop point.toNat

/-- Digits with a point behind the first one, unless there is only one, and a power of ten. -/
def writeScientific (digits : List Char) (exponent : Int) : List Char :=
  let fraction := digits.drop 1
  digits.take 1 ++ (if fraction.isEmpty then [] else '.' :: fraction) ++
    'e' :: (toString exponent).toList

def Scaled.write (s : Scaled) : List Char :=
  let digits := Nat.toDigits 10 s.digits
  let leading := digits.length - 1 + s.exponent
  if positional.least ≤ leading ∧ leading < positional.bound then
    writePositional digits (leading + 1)
  else writeScientific digits leading

def Binary.write (b : Binary) : List Char :=
  if b.mantissa = 0 then ['0', '.', '0'] else b.shortest.trimmed.write

def printDouble (x : Float) : String :=
  if x.isNaN then "NaN"
  else
    (if isNegative x then "-" else "") ++
      if x.isInf then "inf" else String.ofList (Binary.ofDouble x).write

def printWord (w : Int64) : String :=
  toString w.toInt

end DeskCalc.Number
