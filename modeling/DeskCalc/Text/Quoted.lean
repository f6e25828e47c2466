import DeskCalc.Text.Combining
import DeskCalc.Text.Printable

/-!
Quoted text inside messages. A text stands between double marks and a single character between
single ones; the enclosing mark and the backslash are escaped, the usual controls have a letter, and
every other character that would not show stands as its code in hexadecimal.
-/

namespace DeskCalc.Text

/-- The two marks that enclose quoted text. -/
inductive QuoteMark where
  | single
  | double
  deriving Repr, DecidableEq

def QuoteMark.char : QuoteMark → Char
  | .single => '\x27'
  | .double => '\x22'

/-- The code of a character in lower case hexadecimal, between braces. -/
def codeEscape (c : Char) : List Char :=
  ['\\', 'u', '\x7b'] ++ Nat.toDigits 16 c.toNat ++ ['\x7d']

/-- One character as it stands between two marks. -/
def escaped (mark : QuoteMark) (c : Char) : List Char :=
  if c = '\x00' then ['\\', '0']
  else if c = '\t' then ['\\', 't']
  else if c = '\r' then ['\\', 'r']
  else if c = '\n' then ['\\', 'n']
  else if c = '\\' || c = mark.char then ['\\', c]
  else if isCombining c then codeEscape c
  else if isPrintable c then [c]
  else codeEscape c

/-- The characters between two marks of the given kind. -/
def quote (mark : QuoteMark) (cs : List Char) : String :=
  String.ofList (mark.char :: cs.flatMap (escaped mark) ++ [mark.char])

/-- A text between double marks. -/
def quoteText (s : String) : String :=
  quote .double s.toList

/-- A character between single marks. -/
def quoteChar (c : Char) : String :=
  quote .single [c]

end DeskCalc.Text
