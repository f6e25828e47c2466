import DeskCalc.Token.Feed
import DeskCalc.Tree.Build

/-!
A cursor stands on one token of a source text and can be asked to pass it. It never goes back, and
it keeps its place when it cannot go on; a table says which rule reads the statement that a token
begins. The weight of a cursor bounds what is left to read, and passing a token makes it smaller.
-/

namespace DeskCalc

open Token (Kind)

/-! ### Cursors -/

/-- The rules that read a statement. -/
inductive Rule where
  | declaration
  | print
  | assignment
  deriving Repr, DecidableEq

/-- Which rule reads the statement that a kind of token begins. -/
abbrev RuleTable := List (Kind × Rule)

def RuleTable.standard : RuleTable :=
  [(.intType, .declaration), (.floatType, .declaration), (.print, .print),
    (.identifier, .assignment)]

/-- The table with `rule` for `kind`, in place of any other rule for it. -/
def RuleTable.register (table : RuleTable) (kind : Kind) (rule : Rule) : RuleTable :=
  (kind, rule) :: table.filter (·.1 ≠ kind)

/-- A place in a source text: the tokens that were passed, the latest first, the token it stands on
and what follows that. -/
structure Cursor where
  passed : List Token
  current : Token
  feed : Feed
  file : String
  rules : RuleTable

/-- Reading at a cursor gives a value or a diagnostic, and the cursor afterwards in either case. -/
abbrev Parse := EStateM Diagnostic Cursor

namespace Cursor

/-- The cursor on the first token of a source text, or what is wrong before it. -/
def ofSource (source : String) (file : Option String) : Except Diagnostic Cursor :=
  let (result, feed) := (Scanner.ofSource source file).feed.next
  result.map fun current => ⟨[], current, feed, file.getD defaultFile, .standard⟩

/-- The cursor is not at the end of input. -/
def hasTokens (c : Cursor) : Bool :=
  c.current.kind ≠ .endOfInput

/-- A diagnostic about the token that the cursor stands on. -/
def diagnostic (c : Cursor) (cause : Cause) : Diagnostic :=
  ⟨cause, c.current.line, c.file⟩

/-- The diagnostic for a token that nothing at its place can begin with. -/
def unexpected (c : Cursor) (message : String) : Diagnostic :=
  c.diagnostic (.unexpectedTokenDetailed c.current.kind message)

/-- A bound for the number of tokens that can still be passed. -/
def weight (c : Cursor) : Nat :=
  c.feed.results.length + if c.current.kind = .endOfInput then 0 else 1

end Cursor

namespace Parse

/-- Passes the current token and gives it. A diagnostic in place of the token after it is given
instead, and the cursor stays on the token. -/
def advance : Parse Token := fun c =>
  match c.feed.next with
  | (.ok next, feed) => .ok c.current { c with passed := c.current :: c.passed, current := next, feed }
  | (.error d, feed) => .error d { c with feed }

/-- Passes the current token if it is of the given kind. -/
def expect (kind : Kind) : Parse Token := fun c =>
  if c.current.kind = kind then advance c
  else .error (c.diagnostic (.unexpectedToken kind c.current.kind)) c

def unexpected {α : Type} (message : String) : Parse α := fun c =>
  .error (c.unexpected message) c

def register (kind : Kind) (rule : Rule) : Parse Unit :=
  modify fun c => { c with rules := c.rules.register kind rule }

/-! ### Progress -/

/-- The cursor left by a result weighs at most `n`, and less than `n` if something was read. -/
def Within {α : Type} (n : Nat) : EStateM.Result Diagnostic Cursor α → Prop
  | .ok _ c => c.weight < n
  | .error _ c => c.weight ≤ n

def Bounded {α : Type} (n : Nat) : EStateM.Result Diagnostic Cursor α → Prop
  | .ok _ c => c.weight ≤ n
  | .error _ c => c.weight ≤ n

theorem Within.bounded {α : Type} {n : Nat} {r : EStateM.Result Diagnostic Cursor α}
    (h : Within n r) : Bounded n r := by
  cases r with
  | ok => exact Nat.le_of_lt h
  | error => exact h

theorem Within.mono {α : Type} {m n : Nat} {r : EStateM.Result Diagnostic Cursor α}
    (h : Within m r) (hmn : m ≤ n) : Within n r := by
  cases r with
  | ok => exact Nat.lt_of_lt_of_le h hmn
  | error => exact Nat.le_trans h hmn

theorem Bounded.mono {α : Type} {m n : Nat} {r : EStateM.Result Diagnostic Cursor α}
    (h : Bounded m r) (hmn : m ≤ n) : Bounded n r := by
  cases r <;> exact Nat.le_trans h hmn

/-- The rule reads at least one token when it succeeds, and never goes back. -/
def Shrinking {α : Type} (x : Parse α) : Prop := ∀ c, Within c.weight (x c)

/-- The rule never goes back. -/
def Forward {α : Type} (x : Parse α) : Prop := ∀ c, Bounded c.weight (x c)

theorem Shrinking.forward {α : Type} {x : Parse α} (h : Shrinking x) : Forward x :=
  fun c => (h c).bounded

theorem forward_pure {α : Type} (a : α) : Forward (pure a) :=
  fun c => Nat.le_refl c.weight

theorem Forward.bind {α β : Type} {x : Parse α} {f : α → Parse β} (hx : Forward x)
    (hf : ∀ a, Forward (f a)) : Forward (x >>= f) := by
  intro c
  have h := hx c
  show Bounded c.weight (EStateM.bind x f c)
  unfold EStateM.bind
  cases hr : x c with
  | ok a c' =>
    rw [hr] at h
    exact (hf a c').mono h
  | error d c' =>
    rw [hr] at h
    exact h

theorem Shrinking.bind {α β : Type} {x : Parse α} {f : α → Parse β} (hx : Shrinking x)
    (hf : ∀ a, Forward (f a)) : Shrinking (x >>= f) := by
  intro c
  have h := hx c
  show Within c.weight (EStateM.bind x f c)
  unfold EStateM.bind
  cases hr : x c with
  | ok a c' =>
    rw [hr] at h
    have hb := hf a c'
    show Within c.weight (f a c')
    cases hy : f a c' with
    | ok b c'' =>
      rw [hy] at hb
      exact Nat.lt_of_le_of_lt hb h
    | error d c'' =>
      rw [hy] at hb
      exact Nat.le_trans hb (Nat.le_of_lt h)
  | error d c' =>
    rw [hr] at h
    exact h

/-- Passing a token that is not the end of input shrinks what is left. -/
theorem advance_within {c : Cursor} (h : c.current.kind ≠ .endOfInput) :
    Within c.weight (advance c) := by
  obtain ⟨passed, current, ⟨results, endLine⟩, file, rules⟩ := c
  cases results with
  | nil => simp_all [advance, Feed.next, Feed.last, Within, Cursor.weight]
  | cons r results =>
    cases r with
    | ok t =>
      simp only [advance, Feed.next, Within, Cursor.weight, List.length_cons, if_neg h]
      split <;> omega
    | error d => simp_all [advance, Feed.next, Within, Cursor.weight]

theorem expect_shrinking {kind : Kind} (h : kind ≠ .endOfInput) : Shrinking (expect kind) := by
  intro c
  unfold expect
  split
  · rename_i hk
    exact advance_within (hk ▸ h)
  · exact Nat.le_refl _

theorem unexpected_shrinking {α : Type} (message : String) :
    Shrinking (unexpected (α := α) message) :=
  fun c => Nat.le_refl c.weight

/-- A value or diagnostic that does not depend on the cursor. -/
def ofExcept {α : Type} : Except Diagnostic α → Parse α
  | .ok a => pure a
  | .error d => throw d

theorem ofExcept_forward {α : Type} (r : Except Diagnostic α) : Forward (ofExcept r) := by
  intro c
  cases r <;> exact Nat.le_refl _

end Parse

end DeskCalc
