/-!
Integers of 64 bits and their text: a sign or none, then decimal digits. A number that does not fit
is not read, and an exact result that does not fit is no word.
-/

namespace DeskCalc.Number

/-! ### Decimal digits -/

def digitValue (c : Char) : Nat :=
  c.toNat - '0'.toNat

/-- The value of a run of decimal digits, the first one weighing most. -/
def digitsValue (ds : List Char) : Nat :=
  ds.foldl (fun n d => 10 * n + digitValue d) 0

/-- The digits in front and what follows them. -/
def spanDigits (cs : List Char) : List Char × List Char :=
  (cs.takeWhile Char.isDigit, cs.dropWhile Char.isDigit)

/-- A text of one or more digits and nothing else. -/
def isDigits (cs : List Char) : Bool :=
  !cs.isEmpty && cs.all Char.isDigit

/-- The sign in front of a number, negative or not, and what follows it. -/
def splitSign : List Char → Bool × List Char
  | '-' :: cs => (true, cs)
  | '+' :: cs => (false, cs)
  | cs => (false, cs)

/-! ### Words -/

/-- The integer is in the range of signed words of 64 bits. -/
def fitsWord (n : Int) : Bool :=
  Int64.minValue.toInt ≤ n && n ≤ Int64.maxValue.toInt

/-- The word of an integer that fits. -/
def word? (n : Int) : Option Int64 :=
  if fitsWord n then some (Int64.ofInt n) else none

theorem fitsWord_iff {n : Int} :
    fitsWord n = true ↔ Int64.minValue.toInt ≤ n ∧ n ≤ Int64.maxValue.toInt := by
  simp only [fitsWord, Bool.and_eq_true, decide_eq_true_eq]

/-- The word of an integer has that value. -/
theorem toInt_of_word? {n : Int} {w : Int64} (h : word? n = some w) : w.toInt = n := by
  unfold word? at h
  split at h
  · rename_i hf
    rw [fitsWord_iff] at hf
    cases h
    have hlt : Int64.maxValue.toInt < 2 ^ 63 := by decide
    exact Int64.toInt_ofInt_of_le hf.1 (Int.lt_of_le_of_lt hf.2 hlt)
  · cases h

/-- Every word is the word of its value. -/
theorem word?_toInt (w : Int64) : word? w.toInt = some w := by
  have h : fitsWord w.toInt = true := fitsWord_iff.2 ⟨w.minValue_le_toInt, w.toInt_le⟩
  simp [word?, h]

/-! ### Reading -/

/-- The integer that a text of an optional sign and decimal digits stands for. -/
def readInteger? (cs : List Char) : Option Int :=
  let (negative, digits) := splitSign cs
  if isDigits digits then
    some (if negative then -(digitsValue digits : Int) else digitsValue digits)
  else none

/-- The word that a text stands for, if it is an integer that fits. -/
def readWord? (s : String) : Option Int64 :=
  (readInteger? s.toList).bind word?

end DeskCalc.Number
