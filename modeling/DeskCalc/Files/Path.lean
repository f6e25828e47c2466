import DeskCalc.Text.Split

/-!
Paths as text: names with slashes between them. The name of a path is its last component, and its
directory is what stands before that; slashes and single dots at the end of either do not count.
-/

namespace DeskCalc.Files

/-- A path taken apart: whether it begins with a slash, and the pieces between the slashes after
that. -/
structure Path where
  absolute : Bool
  pieces : List String
  deriving Repr, DecidableEq

namespace Path

def ofText (text : String) : Path :=
  match text.toList with
  | '/' :: cs => ⟨true, Text.split '/' (String.ofList cs)⟩
  | _ => ⟨false, Text.split '/' text⟩

def text (p : Path) : String :=
  (if p.absolute then "/" else "") ++ String.intercalate "/" p.pieces

/-- A piece that names nothing: an empty one, or a single dot. -/
def isTrivial (piece : String) : Bool :=
  piece = "" || piece = "."

/-- The path without trivial pieces at its end; a dot at the very beginning stays. -/
def trimmed (p : Path) : Path :=
  let trim (pieces : List String) := (pieces.reverse.dropWhile isTrivial).reverse
  match p.absolute, p.pieces with
  | false, "." :: rest => ⟨false, "." :: trim rest⟩
  | absolute, pieces => ⟨absolute, trim pieces⟩

/-- The path before the last component, if there is one. -/
def parent? (p : Path) : Option Path :=
  let p := p.trimmed
  if p.pieces.isEmpty then none
  else some (trimmed { p with pieces := p.pieces.dropLast })

end Path

/-- The name by which diagnostics call a file: the last component of its path, or the whole path
when that ends in a dot, in two dots or in no component at all. -/
def displayName (path : String) : String :=
  match (Path.ofText path).trimmed.pieces.getLast? with
  | none | some "." | some ".." => path
  | some name => name

def directory (path : String) : String :=
  match (Path.ofText path).parent? with
  | none => "."
  | some parent => if parent.text = "" then "." else parent.text

end DeskCalc.Files
