/-!
Bytes as text. Text is kept in the UTF-8 form; bytes that are not in that form can still be shown,
each longest run that begins a character and does not complete it standing as one replacement
character.
-/

namespace DeskCalc.Text

/-- The character that stands for bytes that are no text. -/
def replacement : Char := '\uFFFD'

/-- The bytes that may follow the first byte of a character directly, with the number of bytes that
follow it in all; nothing if the byte begins no character of several bytes. -/
def following (b : Nat) : Option (Nat × Nat × Nat) :=
  if 0xC2 ≤ b ∧ b ≤ 0xDF then some (0x80, 0xBF, 1)
  else if b = 0xE0 then some (0xA0, 0xBF, 2)
  else if b = 0xED then some (0x80, 0x9F, 2)
  else if 0xE1 ≤ b ∧ b ≤ 0xEF then some (0x80, 0xBF, 2)
  else if b = 0xF0 then some (0x90, 0xBF, 3)
  else if 0xF1 ≤ b ∧ b ≤ 0xF3 then some (0x80, 0xBF, 3)
  else if b = 0xF4 then some (0x80, 0x8F, 3)
  else none

/-- The part of the code of a character that its first byte gives when `count` bytes follow it. -/
def leadBits (b count : Nat) : Nat :=
  b % Nat.pow 2 (6 - count)

/-- Bytes as text. `code` and `owed` tell of a character that has begun: the part of its code read
so far and the number of bytes that complete it; the next of these lies between `low` and
`high`. -/
def decodeFrom (code owed low high : Nat) : List Nat → List Char
  | [] => if owed = 0 then [] else [replacement]
  | b :: bs =>
    if owed ≠ 0 ∧ low ≤ b ∧ b ≤ high then
      let code := code * 64 + b % 64
      if owed = 1 then Char.ofNat code :: decodeFrom 0 0 0 0 bs
      else decodeFrom code (owed - 1) 0x80 0xBF bs
    else
      (if owed = 0 then [] else [replacement]) ++
        if b < 0x80 then Char.ofNat b :: decodeFrom 0 0 0 0 bs
        else match following b with
          | some (low, high, count) => decodeFrom (leadBits b count) count low high bs
          | none => replacement :: decodeFrom 0 0 0 0 bs

/-- Bytes as text, with replacement characters for what is no text. -/
def showBytes (bytes : ByteArray) : String :=
  String.ofList (decodeFrom 0 0 0 0 (bytes.toList.map UInt8.toNat))

end DeskCalc.Text
