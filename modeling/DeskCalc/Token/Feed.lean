import DeskCalc.Token.Scanner

/-!
What a whole source text is cut into: the tokens and the diagnostics in the order in which a scanner
gives them, and the end of input that it gives from then on.
-/

namespace DeskCalc

/-- The tokens and diagnostics before the end of input, and the line of the end. -/
structure Feed where
  results : List (Except Diagnostic Token)
  endLine : Nat

namespace Feed

def last (f : Feed) : Token :=
  ⟨.endOfInput, f.endLine, none⟩

/-- The next token or diagnostic, and what comes after it; at the end the same token for ever. -/
def next (f : Feed) : Except Diagnostic Token × Feed :=
  match f.results with
  | [] => (.ok f.last, f)
  | r :: results => (r, { f with results })

def cons (r : Except Diagnostic Token) (f : Feed) : Feed :=
  ⟨r :: f.results, f.endLine⟩

/-- All tokens with the end of input behind them, or the first diagnostic among them. -/
def tokens (f : Feed) : Except Diagnostic (List Token) :=
  go f.results
where
  /-- The tokens of the remaining results. -/
  go : List (Except Diagnostic Token) → Except Diagnostic (List Token)
    | [] => .ok [f.last]
    | .ok t :: results => (go results).map (t :: ·)
    | .error d :: _ => .error d

end Feed

namespace Scanner

/-- Everything that the scanner gives from here to the end of input. -/
def feed (s : Scanner) : Feed :=
  match _h : s.next with
  | (.ok t, s') =>
    if _ht : t.kind = .endOfInput then ⟨[], t.line⟩
    else s'.feed.cons (.ok t)
  | (.error d, s') => s'.feed.cons (.error d)
termination_by s.chars.length
decreasing_by
  all_goals
    rcases next_shorter _h with ⟨h', _⟩ | h'
    · simp_all
    · exact h'

end Scanner

/-- The tokens of a source text, the end of input included, or the first diagnostic. -/
def tokenize (source : String) (file : Option String) : Except Diagnostic (List Token) :=
  (Scanner.ofSource source file).feed.tokens

end DeskCalc
