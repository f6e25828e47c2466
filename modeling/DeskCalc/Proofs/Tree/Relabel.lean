import DeskCalc.Proofs.Scopes
import Mathlib.Data.Set.Function

/-!
Other names and other lines. A relabelling puts other names and other lines into a tree, into the names
in scope and into diagnostics, and never one name for two. What a name stands for is then found under
the new name (`Scopes.lookup_relabel`), and declaring and looking up give the same up to the labels
(`Scopes.declare_relabel`, `Scopes.fetch_relabel`).
-/

namespace DeskCalc

/-! ### Labels -/

/-- What is put for names and for lines: different names for different ones of those that are known, and
any lines. -/
structure Relabelling (known : Set String) where
  name : String → String
  line : Nat → Nat
  injOn : Set.InjOn name known

namespace Relabelling

/-- Other names, on the same lines. -/
def ofNames {known : Set String} (name : String → String) (h : Set.InjOn name known) :
    Relabelling known :=
  ⟨name, id, h⟩

/-- The same names, on other lines. -/
def ofLines (line : Nat → Nat) : Relabelling Set.univ :=
  ⟨id, line, Function.injective_id.injOn⟩

/-- A name is put for no other name than its own. -/
theorem name_eq_iff {known : Set String} (ρ : Relabelling known) {m n : String} (hm : m ∈ known)
    (hn : n ∈ known) : ρ.name m = ρ.name n ↔ m = n :=
  ρ.injOn.eq_iff hm hn

end Relabelling

variable {known : Set String} (ρ : Relabelling known)

/-! ### Trees -/

def Identifier.relabel (target : Identifier) : Identifier :=
  ⟨ρ.name target.name, ρ.line target.line⟩

namespace Expr

def relabel : Expr → Expr
  | number text ty line => number text ty (ρ.line line)
  | symbol name line => symbol (ρ.name name) (ρ.line line)
  | binary left operator right line => binary left.relabel operator right.relabel (ρ.line line)
  | convert inner target line => convert inner.relabel target (ρ.line line)

/-- The names of the variables in an expression, from the left to the right. -/
def names : Expr → List String
  | number .. => []
  | symbol name _ => [name]
  | binary left _ right _ => left.names ++ right.names
  | convert inner _ _ => inner.names

theorem line_relabel (e : Expr) : (e.relabel ρ).line = ρ.line e.line := by
  cases e <;> rfl

theorem wrap_relabel (e : Expr) (target : Ty) :
    (e.relabel ρ).wrap target = (e.wrap target).relabel ρ := by
  rw [wrap, line_relabel]
  rfl

end Expr

namespace Stmt

def relabel : Stmt → Stmt
  | declaration target ty value line =>
    declaration (target.relabel ρ) ty (value.map (Expr.relabel ρ)) (ρ.line line)
  | assignment target value line =>
    assignment (target.relabel ρ) (value.relabel ρ) (ρ.line line)
  | print target line => print (target.relabel ρ) (ρ.line line)

/-- The names in a statement: that of its target, then those in its expression. -/
def names (s : Stmt) : List String :=
  s.target.name :: (s.value?.map Expr.names).getD []

end Stmt

namespace Program

def relabel (p : Program) : Program :=
  ⟨p.body.map (Stmt.relabel ρ), ρ.line p.line⟩

def names (p : Program) : List String :=
  p.body.flatMap Stmt.names

end Program

/-! ### Diagnostics -/

def Cause.relabel : Cause → Cause
  | variableAlreadyDeclared name => variableAlreadyDeclared (ρ.name name)
  | variableNotDeclared name => variableNotDeclared (ρ.name name)
  | narrowingConversion name expected received =>
    narrowingConversion (ρ.name name) expected received
  | unboundSymbol name => unboundSymbol (ρ.name name)
  | unrecognisedCharacter character => unrecognisedCharacter character
  | malformedNumber token message => malformedNumber token message
  | unexpectedToken expected found => unexpectedToken expected found
  | unexpectedTokenDetailed found message => unexpectedTokenDetailed found message
  | missingNode node field => missingNode node field
  | invalidLiteral literal ty => invalidLiteral literal ty
  | uncheckedTypeMismatch context left right => uncheckedTypeMismatch context left right

def Diagnostic.relabel (d : Diagnostic) : Diagnostic :=
  ⟨d.cause.relabel ρ, ρ.line d.line, d.file⟩

/-- On other lines a cause is the same. -/
theorem Cause.relabel_ofLines (line : Nat → Nat) (cause : Cause) :
    cause.relabel (.ofLines line) = cause := by
  cases cause <;> rfl

/-! ### Names in scope -/

namespace Scopes

def relabel (s : Scopes) : Scopes :=
  ⟨s.inner.map (Prod.map ρ.name id), s.outer.map (List.map (Prod.map ρ.name id))⟩

/-- Every name in scope is one of those that are known. -/
def Within (known : Set String) (s : Scopes) : Prop := ∀ entry ∈ s.entries, entry.1 ∈ known

theorem within_start : start.Within known := by
  intro entry h
  cases h

variable {s : Scopes} {name : String}

theorem Within.add (hs : s.Within known) (hn : name ∈ known) (symbol : Symbol) :
    (s.add name symbol).Within known :=
  List.forall_mem_cons.mpr ⟨hn, hs⟩

theorem entries_relabel : (s.relabel ρ).entries = s.entries.map (Prod.map ρ.name id) := by
  simp only [entries, relabel, List.map_flatten, List.map_cons]

/-- In a list of names with what they stand for, a name is found under its new name. -/
theorem lookup_map_relabel {scope : Scope} (hs : ∀ entry ∈ scope, entry.1 ∈ known)
    (hn : name ∈ known) :
    (scope.map (Prod.map ρ.name id)).lookup (ρ.name name) = scope.lookup name := by
  induction scope with
  | nil => rfl
  | cons entry scope ih =>
    obtain ⟨first, symbol⟩ := entry
    obtain ⟨hfirst, hrest⟩ := List.forall_mem_cons.mp hs
    have hsame : (ρ.name name == ρ.name first) = (name == first) := by
      rw [Bool.eq_iff_iff, beq_iff_eq, beq_iff_eq, ρ.name_eq_iff hn hfirst]
    simp only [List.map_cons, Prod.map_apply, id_eq, List.lookup_cons, hsame, ih hrest]

/-- **A name stands for the same under its new name.** -/
theorem lookup_relabel (hs : s.Within known) (hn : name ∈ known) :
    (s.relabel ρ).lookup (ρ.name name) = s.lookup name := by
  rw [lookup_eq_entries, lookup_eq_entries, entries_relabel, lookup_map_relabel ρ hs hn]

theorem fetch_relabel (hs : s.Within known) (hn : name ∈ known) (line : Nat) (file : String) :
    (s.relabel ρ).fetch (ρ.name name) (ρ.line line) file =
      (s.fetch name line file).mapError (Diagnostic.relabel ρ) := by
  unfold fetch
  rw [lookup_relabel ρ hs hn]
  cases s.lookup name <;> rfl

theorem declare_relabel (hs : s.Within known) (hn : name ∈ known) (symbol : Symbol) (line : Nat)
    (file : String) :
    (s.relabel ρ).declare (ρ.name name) symbol (ρ.line line) file =
      ((s.declare name symbol line file).map (relabel ρ)).mapError (Diagnostic.relabel ρ) := by
  have hinner : ∀ entry ∈ s.inner, entry.1 ∈ known :=
    fun entry he => hs entry (List.mem_append_left _ he)
  have hlookup : (s.relabel ρ).inner.lookup (ρ.name name) = s.inner.lookup name :=
    lookup_map_relabel ρ hinner hn
  unfold declare
  rw [hlookup]
  cases s.inner.lookup name <;> rfl

end Scopes

end DeskCalc
