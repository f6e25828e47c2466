import DeskCalc.Tree.Basic

/-!
Tokens of the calculator language: their kinds, the groups the kinds fall into, and the tokens
themselves, which carry a text only when their kind leaves it open.
-/

namespace DeskCalc

namespace Token

inductive Kind where
  | endOfInput
  | integer
  | decimal
  | identifier
  | openParen
  | closeParen
  | semicolon
  | assign
  | plus
  | dash
  | star
  | slash
  | intType
  | floatType
  | print
  deriving Repr, DecidableEq

/-- The groups of kinds. -/
inductive Category where
  | literal
  | identifier
  | keyword
  | operator
  | delimiter
  | endOfInput
  deriving Repr, DecidableEq

namespace Kind

def name : Kind → String
  | endOfInput => "EOF"
  | integer => "Int"
  | decimal => "Float"
  | identifier => "Identifier"
  | openParen => "OpenParen"
  | closeParen => "CloseParen"
  | semicolon => "Semicolon"
  | assign => "Assignment"
  | plus => "Plus"
  | dash => "Dash"
  | star => "Star"
  | slash => "Slash"
  | intType => "TyInt"
  | floatType => "TyFloat"
  | print => "Print"

def category : Kind → Category
  | integer | decimal => .literal
  | identifier => .identifier
  | intType | floatType | print => .keyword
  | assign | plus | dash | star | slash => .operator
  | openParen | closeParen | semicolon => .delimiter
  | endOfInput => .endOfInput

/-- The operation that a kind stands for. -/
def operator? : Kind → Option Operator
  | plus => some .add
  | dash => some .sub
  | star => some .mul
  | slash => some .div
  | _ => none

def keyword? (word : List Char) : Option Kind :=
  if word = "int".toList then some .intType
  else if word = "float".toList then some .floatType
  else if word = "print".toList then some .print
  else none

def punctuation? : Char → Option Kind
  | ';' => some .semicolon
  | '+' => some .plus
  | '-' => some .dash
  | '*' => some .star
  | '/' => some .slash
  | '=' => some .assign
  | '(' => some .openParen
  | ')' => some .closeParen
  | _ => none

end Kind

end Token

/-- A token: its kind, its line, and its text when it is a number or an identifier. -/
structure Token where
  kind : Token.Kind
  line : Nat
  text? : Option String
  deriving Repr, DecidableEq

namespace Token

/-- The text of a token, empty when it carries none. -/
def text (t : Token) : String :=
  t.text?.getD ""

/-- A token in angle brackets: kind, line, and the text if there is one. -/
def written (t : Token) : String :=
  "<" ++ t.kind.name ++ ",r:" ++ toString t.line ++
    (match t.text? with
      | some text => "," ++ text
      | none => "") ++ ">"

end Token

end DeskCalc
