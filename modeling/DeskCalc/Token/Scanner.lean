import DeskCalc.Diagnostic.Basic
import DeskCalc.Text.Alphabetic
import DeskCalc.Text.Numeric
import DeskCalc.Token.Reader
import DeskCalc.Tree.Literal

/-!
Cutting source text into tokens. A word is a letter with every letter and numeral after it, a number
is a run of digits with or without a point and further digits, and eight characters are punctuation.
Spaces, tabs and line ends stand between tokens and are skipped. A scanner goes on after something it
could not read; at the end of the text it gives the end of input however often it is asked.
-/

namespace DeskCalc

namespace Token

/-! ### Character classes -/

def isSpace (c : Char) : Bool :=
  c = ' ' || c = '\t' || c = '\n' || c = '\r'

/-- The characters that a word goes on with. -/
def isWordChar (c : Char) : Bool :=
  Text.isAlphabetic c || Text.isNumeral c

/-! ### Numbers and words -/

/-- The most digits that may follow the point of a number. -/
def maxFractionDigits : Nat := 5

/-- The text of an integer, if it fits. -/
def integerText (digits : List Char) : Except Cause String :=
  let text := String.ofList digits
  if Ty.int.admits text then .ok text
  else .error (.malformedNumber text "does not fit in a 64-bit integer")

/-- The text of a number with a point, if it has a fraction that is not too long and is not too
large. -/
def decimalText (whole fraction : List Char) : Except Cause String :=
  let text := String.ofList (whole ++ '.' :: fraction)
  if fraction.isEmpty then .error (.malformedNumber text "no digits after the decimal point")
  else if maxFractionDigits < fraction.length then
    .error (.malformedNumber text (toString fraction.length ++ " fractional digits, at most " ++
      toString maxFractionDigits ++ " allowed"))
  else if Ty.float.admits text then .ok text
  else .error (.malformedNumber text "too large for a double")

/-- The token of a word: a keyword, or an identifier with the word as its text. -/
def ofWord (word : List Char) (line : Nat) : Token :=
  match Kind.keyword? word with
  | some kind => ⟨kind, line, none⟩
  | none => ⟨.identifier, line, some (String.ofList word)⟩

end Token

/-! ### Scanners -/

/-- A scanner: the text before it, the line it is on and the file it belongs to. The number of the line has
no bound here, and so the lines of tokens and diagnostics have none; `lineCounter` is the word that holds
it. The two are the same in a text with fewer than `2 ^ 32 - 1` line ends. -/
structure Scanner where
  reader : Token.Reader
  line : Nat
  file : String
  deriving Repr, DecidableEq

namespace Scanner

open Token (Reader)

def ofSource (source : String) (file : Option String) : Scanner :=
  ⟨Reader.ofList source.toList, 1, file.getD defaultFile⟩

def chars (s : Scanner) : List Char :=
  s.reader.chars

/-- The number of the line in a word of 32 bits, which goes on with zero behind the largest. -/
def lineCounter (s : Scanner) : UInt32 :=
  UInt32.ofNat s.line

/-- A diagnostic about the line that the scanner is on. -/
def diagnostic (s : Scanner) (cause : Cause) : Diagnostic :=
  ⟨cause, s.line, s.file⟩

/-- Skips what stands before a token and gives its first character, if there is a token left. -/
def skip (s : Scanner) : Option Char × Scanner :=
  match _h : s.reader.read with
  | none => (none, s)
  | some (c, reader) =>
    if c = '\n' then skip { s with reader, line := s.line + 1 }
    else if Token.isSpace c then skip { s with reader }
    else (some c, { s with reader })
termination_by s.chars.length
decreasing_by all_goals simp [chars, Reader.chars_of_read _h]

/-- A number: its digits, and if a point follows them, the point and the digits behind it. -/
def number (s : Scanner) : Except Diagnostic Token × Scanner :=
  let (whole, reader) := s.reader.takeWhile Char.isDigit
  let token (kind : Token.Kind) : Except Cause String → Except Diagnostic Token
    | .ok text => .ok ⟨kind, s.line, some text⟩
    | .error cause => .error (s.diagnostic cause)
  match reader.read with
  | none => (token .integer (Token.integerText whole), { s with reader })
  | some (c, after) =>
    if c = '.' then
      let (fraction, after) := after.takeWhile Char.isDigit
      (token .decimal (Token.decimalText whole fraction), { s with reader := after })
    else (token .integer (Token.integerText whole), { s with reader := after.unread c })

def word (s : Scanner) : Token × Scanner :=
  let (word, reader) := s.reader.takeWhile Token.isWordChar
  (Token.ofWord word s.line, { s with reader })

/-- The next token, or what is wrong before the next one; the scanner has passed it in either
case. -/
def next (s : Scanner) : Except Diagnostic Token × Scanner :=
  match s.skip with
  | (none, s) => (.ok ⟨.endOfInput, s.line, none⟩, s)
  | (some c, s) =>
    if c.isDigit then { s with reader := s.reader.unread c }.number
    else if Text.isAlphabetic c then
      let (token, s) := { s with reader := s.reader.unread c }.word
      (.ok token, s)
    else match Token.Kind.punctuation? c with
      | some kind => (.ok ⟨kind, s.line, none⟩, s)
      | none => (.error (s.diagnostic (.unrecognisedCharacter c)), s)

/-! ### Progress -/

theorem chars_of_skip_none {s s' : Scanner} (h : s.skip = (none, s')) : s'.chars = [] := by
  fun_induction skip s with
  | case1 s hr => cases h; exact Reader.chars_of_read_none hr
  | case2 s r hr ih => exact ih h
  | case3 s c r hr hc hs ih => exact ih h
  | case4 => simp at h

/-- The character that `skip` gives was read from the text, and none is put back. -/
theorem chars_of_skip {s s' : Scanner} {c : Char} (h : s.skip = (some c, s')) :
    s'.chars.length < s.chars.length ∧ s'.reader.pending = none := by
  fun_induction skip s with
  | case1 => simp at h
  | case2 s r hr ih =>
    have := ih h
    simp only [chars, Reader.chars_of_read hr] at this ⊢
    exact ⟨by simp; omega, this.2⟩
  | case3 s c r hr hc hs ih =>
    have := ih h
    simp only [chars, Reader.chars_of_read hr] at this ⊢
    exact ⟨by simp; omega, this.2⟩
  | case4 s c r hr =>
    simp only [Prod.mk.injEq, Option.some.injEq] at h
    obtain ⟨rfl, rfl⟩ := h
    simp [chars, Reader.chars_of_read hr, Reader.pending_of_read hr]

theorem chars_number_le (s : Scanner) :
    s.number.2.chars.length ≤ (s.chars.dropWhile Char.isDigit).length := by
  have hc := Reader.chars_takeWhile Char.isDigit s.reader
  simp only [number, chars]
  rw [← hc]
  split
  · simp
  · rename_i c after hr
    have hr := Reader.chars_of_read hr
    split
    · simp only [Reader.chars_takeWhile, hr]
      have := (List.dropWhile_sublist Char.isDigit (l := after.chars)).length_le
      simp
      omega
    · rename_i hr' _
      simp [hr, Reader.chars_unread (Reader.pending_of_read hr')]

theorem chars_word (s : Scanner) : s.word.2.chars = s.chars.dropWhile Token.isWordChar := by
  simp [word, chars, Reader.chars_takeWhile]

/-- **Every call makes progress**: it gives the end of input with nothing left, or leaves less text
than there was. -/
theorem next_shorter {s s' : Scanner} {r : Except Diagnostic Token} (h : s.next = (r, s')) :
    r = .ok ⟨.endOfInput, s'.line, none⟩ ∧ s'.chars = [] ∨ s'.chars.length < s.chars.length := by
  unfold next at h
  split at h
  · rename_i hs
    obtain ⟨rfl, rfl⟩ := Prod.mk.inj h
    exact .inl ⟨rfl, chars_of_skip_none hs⟩
  · rename_i c t hs
    obtain ⟨hl, hp⟩ := chars_of_skip hs
    have hu : (Scanner.mk (t.reader.unread c) t.line t.file).chars = c :: t.chars :=
      Reader.chars_unread hp c
    right
    split at h
    · rename_i hd
      have := chars_number_le ⟨t.reader.unread c, t.line, t.file⟩
      rw [h, hu, List.dropWhile_cons_of_pos hd] at this
      have := (List.dropWhile_sublist Char.isDigit (l := t.chars)).length_le
      simp at *
      omega
    · split at h
      · rename_i ha
        have := chars_word ⟨t.reader.unread c, t.line, t.file⟩
        rw [hu, List.dropWhile_cons_of_pos (by simp [Token.isWordChar, ha])] at this
        have hle := (List.dropWhile_sublist Token.isWordChar (l := t.chars)).length_le
        simp only [Prod.mk.injEq] at h
        rw [← h.2, this]
        omega
      · split at h <;>
          · simp only [Prod.mk.injEq] at h
            rw [← h.2]
            exact hl

end Scanner

end DeskCalc
