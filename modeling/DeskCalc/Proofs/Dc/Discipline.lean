import DeskCalc.Proofs.Dc.Calculator
import DeskCalc.Proofs.Dc.Course
import DeskCalc.Proofs.Machine.Meaning
import Mathlib.Data.List.TakeWhile
import Mathlib.Data.Rat.Cast.Order

/-!
The calculator keeps to what a program asks for, with floating point numbers as with integers and in any
arithmetic. Statement by statement the places of the variables hold what was last stored in them,
nothing is left on the stack, and the precision is the one that was asked for. Main statements: the
commands of an expression push its result (`Expr.Emits.run_eq_some`), the commands of a statement do
what the statement asks for (`Stmt.Emits.run_eq_some`), and so does the text for a source text
(`dc_text_disciplined`).
-/

namespace DeskCalc

open Dc (Arithmetic Command Deed precisionCommands)

/-! ### Runs of commands -/

namespace Dc.Arithmetic

variable {ν : Type} (a : Arithmetic ν)

/-- What a command makes of the calculator, and what is done by it. There is no result if the stack
does not hold enough numbers, or no natural number where one is needed. -/
def perform (command : Command) (c : Calculator ν) : Option (Calculator ν × List (Deed ν)) :=
  match command, c.stack with
  | .numeral text, _ => some (c.push (a.numeral text), [])
  | .access .load name, _ => some (c.push (c.registers name), [.loaded (c.registers name)])
  | .access .store name, x :: stack => some (({ c with stack } : Calculator ν).setRegister name x, [])
  | .access .fetch name, index :: stack => do
    let n ← a.natural? index
    let x := c.arrays name n
    some (({ c with stack } : Calculator ν).push x, [.loaded x])
  | .access .put name, index :: x :: stack => do
    let n ← a.natural? index
    some (({ c with stack } : Calculator ν).setElement name n x, [])
  | .operate operator, right :: left :: stack =>
    some (({ c with stack } : Calculator ν).push (a.operate c.precision operator left right),
      [.operated operator c.precision left right])
  | .precision, k :: stack => do
    let precision ← a.natural? k
    some ({ c with stack, precision }, [])
  | .print, x :: _ => some ({ c with printed := c.printed ++ [a.shown x] }, [])
  | _, _ => none

/-- The calculator after commands in order, and all that is done by them. -/
def run : List Command → Calculator ν → Option (Calculator ν × List (Deed ν))
  | [], c => some (c, [])
  | command :: commands, c => do
    let (c, deeds) ← a.perform command c
    let (c, more) ← run commands c
    some (c, deeds ++ more)

variable {a} {c c₁ c₂ : Calculator ν} {deeds more : List (Deed ν)}

theorem run_append {commands further : List Command} (h : a.run commands c = some (c₁, deeds))
    (hmore : a.run further c₁ = some (c₂, more)) :
    a.run (commands ++ further) c = some (c₂, deeds ++ more) := by
  induction commands generalizing c deeds with
  | nil =>
    cases h
    exact hmore
  | cons command commands ih =>
    simp only [run, Option.bind_eq_bind, Option.bind_eq_some_iff, Option.some.injEq] at h
    obtain ⟨⟨c', ds⟩, hfirst, ⟨c'', es⟩, hrest, heq⟩ := h
    cases heq
    simp only [List.cons_append, run, hfirst, ih hrest, Option.bind_eq_bind, Option.bind_some,
      List.append_assoc]

theorem run_singleton {command : Command} (h : a.perform command c = some (c₁, deeds)) :
    a.run [command] c = some (c₁, deeds) := by
  simp only [run, h, Option.bind_eq_bind, Option.bind_some, List.append_nil]

theorem perform_precision {k : ν} {n : Nat} (h : a.natural? k = some n) :
    a.perform .precision (c.push k) = some ({ c with precision := n }, []) := by
  show (a.natural? k).bind _ = _
  rw [h]
  rfl

theorem perform_fetch {index : ν} {n : Nat} (h : a.natural? index = some n) (name : Char) :
    a.perform (.access .fetch name) (c.push index) =
      some (c.push (c.arrays name n), [.loaded (c.arrays name n)]) := by
  show (a.natural? index).bind _ = _
  rw [h]
  rfl

theorem perform_put {index : ν} {n : Nat} (h : a.natural? index = some n) (name : Char) (x : ν) :
    a.perform (.access .put name) ((c.push x).push index) = some (c.setElement name n x, []) := by
  show (a.natural? index).bind _ = _
  rw [h]
  rfl

theorem natural?_toString (n : Nat) : a.natural? (a.numeral (toString n).toList) = some n := by
  rw [a.natural?_numeral _ (isDigits_toString n), digitsValue_toString]

/-- A natural number is written and used up by the command behind it. -/
theorem run_indexed {n : Nat} {command : Command}
    (h : a.perform command (c.push (a.numeral (toString n).toList)) = some (c₁, deeds)) :
    a.run [.numeral (toString n).toList, command] c = some (c₁, deeds) := by
  have hnumeral : a.run [.numeral (toString n).toList] c =
      some (c.push (a.numeral (toString n).toList), []) := rfl
  exact run_append hnumeral (run_singleton h)

theorem run_precision (n : Nat) :
    a.run (precisionCommands n) c = some ({ c with precision := n }, []) :=
  run_indexed (perform_precision (natural?_toString n))

theorem run_load (slot : Nat) : a.run (Storage.ofSlot slot).loadCommands c =
    some (c.push (c.read (.ofSlot slot)), [.loaded (c.read (.ofSlot slot))]) := by
  cases Storage.ofSlot slot with
  | register name => rfl
  | spilled index => exact run_indexed (perform_fetch (natural?_toString index) 'i')

theorem run_store (slot : Nat) (x : ν) : a.run (Storage.ofSlot slot).storeCommands (c.push x) =
    some (c.write x (.ofSlot slot), []) := by
  cases Storage.ofSlot slot with
  | register name => rfl
  | spilled index => exact run_indexed (perform_put (natural?_toString index) 'i' x)

/-- Printing leaves the stack as it was and uses up one register. -/
theorem run_print (precision slot : Nat) (ty : Ty) :
    a.run ((Step.print slot ty).commands precision) c =
      some ({ c.setRegister 'i' (c.read (.ofSlot slot)) with
        printed := c.printed ++ [a.shown (c.read (.ofSlot slot))] },
        [.loaded (c.read (.ofSlot slot))]) := by
  have hload : a.run (Storage.ofSlot slot).loadCommands c = _ := run_load slot
  exact run_append hload rfl

/-- An operation is done with the precision that its type calls for, and the precision is afterwards
what it was before. -/
theorem run_binary {precision : Nat} (hp : c.precision = precision) (operator : Operator) (ty : Ty)
    (left right : ν) :
    a.run ((Step.binary operator ty).commands precision) ((c.push left).push right) =
      some (c.push (a.operate (operator.fractionDigits precision ty ty) operator left right),
        [.operated operator (operator.fractionDigits precision ty ty) left right]) := by
  by_cases hd : operator = .div ∧ ty = .int
  · obtain ⟨rfl, rfl⟩ := hd
    subst hp
    -- the precision is switched off before the quotient and on again behind it
    have hbefore : a.run (precisionCommands 0) ((c.push left).push right) = _ := run_precision 0
    have hdivide : a.run [.operate .div]
        { (c.push left).push right with precision := 0 } =
          some ({ c.push (a.operate 0 .div left right) with precision := 0 },
            [.operated .div 0 left right]) := rfl
    have hafter : a.run (precisionCommands c.precision)
        { c.push (a.operate 0 .div left right) with precision := 0 } = _ := run_precision _
    exact run_append hbefore (run_append hdivide hafter)
  · have hdigits : operator.fractionDigits precision ty ty = c.precision := by
      rw [Operator.fractionDigits_eq fun h => hd ⟨h.1, h.2.1⟩, hp]
    rw [Step.commands_binary hd, hdigits]
    rfl

end Dc.Arithmetic

/-! ### Expressions -/

/-- **The calculator does what an expression asks for**, leaves its result on the stack and the
precision as it was. -/
theorem Expr.Emits.run_eq_some {ν : Type} {a : Arithmetic ν} {precision : Nat} {scopes : Scopes}
    {e : Expr} {steps : List Step} {ty : Ty} {c : Calculator ν} {w : Course ν}
    (h : e.Emits .dc scopes steps ty) (hl : Spelled e.literals) (hp : c.precision = precision)
    (hc : ∀ name ty slot, scopes.lookup name = some ⟨ty, some slot⟩ →
      w.types name = ty ∧ c.read (.ofSlot slot) = w.values name) :
    e.ty w.types = ty ∧ a.run (steps.flatMap (Step.commands precision)) c =
      some (c.push (e.result a precision w), e.deeds a precision w) := by
  induction h generalizing c with
  | @number text ty line _ =>
    obtain ⟨-, hs⟩ := hl _ (List.mem_singleton_self _)
    have htext : dcLiteral text = text := Dc.dcLiteral_eq (Dc.head?_spelled hs)
    refine ⟨rfl, ?_⟩
    show a.run [.numeral (dcLiteral text).toList] c = _
    rw [htext]
    rfl
  | symbol hs =>
    obtain ⟨hty, hread⟩ := hc _ _ _ hs
    refine ⟨hty, ?_⟩
    rw [List.flatMap_singleton, result, deeds, ← hread]
    exact Arithmetic.run_load _
  | @binary left right operator line ls rs ty _ _ ihl ihr =>
    obtain ⟨hll, hlr⟩ := spelled_append.mp hl
    -- the right operand finds the result of the left one on the stack, and the same variables
    obtain ⟨htl, hil⟩ := ihl hll hp hc
    obtain ⟨htr, hir⟩ := ihr hlr (c := c.push (left.result a precision w)) hp hc
    refine ⟨?_, ?_⟩
    · cases ty with
      | int => rw [Expr.ty, htl, htr, if_pos ⟨rfl, rfl⟩]
      | float => rw [Expr.ty, htl, htr, if_neg (by simp)]
    · rw [List.flatMap_append, List.flatMap_append, List.flatMap_singleton, result, deeds, htl, htr]
      exact Arithmetic.run_append (Arithmetic.run_append hil hir)
        (Arithmetic.run_binary hp operator ty _ _)
  | convert _ ih =>
    obtain ⟨-, hi⟩ := ih hl hp hc
    refine ⟨rfl, ?_⟩
    rw [List.flatMap_append, List.flatMap_singleton]
    exact (List.append_nil _).symm ▸ hi

/-! ### What the calculator holds -/

namespace Calculator

variable {ν : Type}

/-- The calculator has come as far as the course: it holds the numbers last stored in the variables in
scope, and zeros at the places that the generator has not given yet; nothing is left on the stack, the
precision is the one that was asked for, and the same lines were printed. -/
structure Keeps (a : Arithmetic ν) (c : Calculator ν) (g : Generator) (precision : Nat)
    (w : Course ν) : Prop where
  values : ∀ name ty slot, g.scopes.lookup name = some ⟨ty, some slot⟩ →
    w.types name = ty ∧ c.read (.ofSlot slot) = w.values name
  unset : ∀ slot, g.slotsUsed ≤ slot → c.read (.ofSlot slot) = a.zero
  stack : c.stack = []
  precision : c.precision = precision
  printed : c.printed = w.printed

variable {a : Arithmetic ν} {c : Calculator ν} {g : Generator} {precision : Nat} {w : Course ν}
  {types : List Ty}

theorem keeps_start (file : Option String) (precision : Nat) :
    Keeps a { start a.zero with precision } ((Generator.start .dc file).took [.preamble]) precision
      (.start a) where
  values name ty slot hl := by cases hl
  unset slot _ := by cases Storage.ofSlot slot <;> rfl
  stack := rfl
  precision := rfl
  printed := rfl

theorem Keeps.took (h : c.Keeps a g precision w) (steps : List Step) :
    c.Keeps a (g.took steps) precision w :=
  ⟨h.values, h.unset, h.stack, h.precision, h.printed⟩

/-- A place that was never given reads as zero. -/
theorem Keeps.allocated (h : c.Keeps a g precision w) (name : String) (ty : Ty) :
    c.Keeps a (g.allocated name ty) precision (w.declared a name ty) where
  values x t slot hl := by
    rw [Generator.allocated, Scopes.lookup_add] at hl
    show Function.update w.types name ty x = t ∧ _ = Function.update w.values name a.zero x
    by_cases hx : x = name
    · rw [if_pos hx] at hl
      cases hl
      rw [hx, Function.update_self, Function.update_self]
      exact ⟨rfl, h.unset _ (Nat.le_refl _)⟩
    · rw [if_neg hx] at hl
      rw [Function.update_of_ne hx, Function.update_of_ne hx]
      exact h.values x t slot hl
  unset slot hs := h.unset slot (Nat.le_of_succ_le hs)
  stack := h.stack
  precision := h.precision
  printed := h.printed

/-- Storing in a variable changes this variable and no other one. -/
theorem Keeps.write (h : c.Keeps a g precision w) (hf : g.Fits types) {name : String} {ty : Ty}
    {slot : Nat} (hl : g.scopes.lookup name = some ⟨ty, some slot⟩) (e : Expr) :
    (c.write (e.result a precision w) (.ofSlot slot)).Keeps a g precision
      (w.stored a precision name e) := by
  refine ⟨fun x t i hx => ?_, fun i hi => ?_, (write_stack ..).trans h.stack,
    (write_precision ..).trans h.precision, (write_printed ..).trans h.printed⟩
  · obtain ⟨ht, hread⟩ := h.values x t i hx
    refine ⟨ht, ?_⟩
    show _ = Function.update w.values name (e.result a precision w) x
    rw [read_write_scope hf hl c _ hx, Function.update_apply, hread]
  · rw [read_write_unused hf hl c _ hi]
    exact h.unset i hi

/-- Printing changes no variable. -/
theorem Keeps.print (h : c.Keeps a g precision w) (name : String) (x : ν) :
    Keeps a { c.setRegister 'i' x with printed := c.printed ++ [a.shown (w.values name)] } g precision
      (w.showed a name) where
  values y t i hy := by
    obtain ⟨ht, hread⟩ := h.values y t i hy
    exact ⟨ht, (read_setRegister_i c _ i).trans hread⟩
  unset i hi := (read_setRegister_i c _ i).trans (h.unset i hi)
  stack := h.stack
  precision := h.precision
  printed := by
    rw [h.printed]
    rfl

end Calculator

/-! ### Statements -/

namespace Stmt

variable {ν : Type} {a : Arithmetic ν} {c : Calculator ν} {g g' : Generator} {precision : Nat}
  {w : Course ν} {types : List Ty} {s : Stmt} {body : List Stmt} {steps : List Step}

theorem run_stored {value : Expr} {name : String} {ty : Ty} {slot : Nat} (hf : g.Fits types)
    (hl : g.scopes.lookup name = some ⟨ty, some slot⟩) (he : value.Emits .dc g.scopes steps ty)
    (hs : Spelled value.literals) (hc : c.Keeps a g precision w) :
    ∃ c' deeds, a.run ((steps ++ [Step.store slot ty]).flatMap (Step.commands precision)) c =
        some (c', deeds) ∧
      c'.Keeps a g precision (w.stored a precision name value) ∧
      (w.stored a precision name value).deeds = w.deeds ++ deeds := by
  obtain ⟨-, hvalue⟩ := he.run_eq_some hs hc.precision hc.values
  have hstore : a.run (Storage.ofSlot slot).storeCommands (c.push (value.result a precision w)) = _ :=
    Arithmetic.run_store slot _
  refine ⟨_, value.deeds a precision w, ?_, hc.write hf hl value, rfl⟩
  rw [List.flatMap_append, List.flatMap_singleton]
  exact List.append_nil (value.deeds a precision w) ▸ Arithmetic.run_append hvalue hstore

/-- **The calculator does what a statement asks for**, and nothing is left on the stack. -/
theorem Emits.run_eq_some (h : s.Emits g g') (ht : g.target = .dc) (hs : Spelled s.literals)
    (hf : g.Fits types) (hc : c.Keeps a g precision w) (hsteps : g'.steps = g.steps ++ steps) :
    ∃ c' deeds, a.run (steps.flatMap (Step.commands precision)) c = some (c', deeds) ∧
      c'.Keeps a g' precision (s.course a precision w) ∧
      (s.course a precision w).deeds = w.deeds ++ deeds := by
  cases h with
  | @declaration target ty line hn =>
    obtain rfl : steps = [] := by simpa [Generator.allocated] using hsteps
    exact ⟨c, [], rfl, hc.allocated target.name ty, (List.append_nil _).symm⟩
  | @initialised target ty line value taken hn he =>
    obtain rfl : steps = taken ++ [.store g.slotsUsed ty] := (List.append_cancel_left hsteps).symm
    have hl := g.lookup_allocated target.name ty
    have he' : value.Emits .dc (g.allocated target.name ty).scopes taken ty := ht ▸ he
    obtain ⟨c', deeds, hrun, hc', hdeeds⟩ :=
      run_stored (hf.allocated target.name ty) hl he' hs (hc.allocated target.name ty)
    exact ⟨c', deeds, hrun, hc'.took _, hdeeds⟩
  | @assignment target line value taken slot ty hl he =>
    obtain rfl : steps = taken ++ [.store slot ty] := (List.append_cancel_left hsteps).symm
    have he' : value.Emits .dc g.scopes taken ty := ht ▸ he
    obtain ⟨c', deeds, hrun, hc', hdeeds⟩ := run_stored hf hl he' hs hc
    exact ⟨c', deeds, hrun, hc'.took _, hdeeds⟩
  | @print target line slot ty hl =>
    obtain rfl : steps = [.print slot ty] := (List.append_cancel_left hsteps).symm
    obtain ⟨-, hread⟩ := hc.values _ _ _ hl
    refine ⟨_, _, ?_, (hc.print target.name (w.values target.name)).took _, rfl⟩
    rw [List.flatMap_singleton, Arithmetic.run_print, hread]

/-- **The calculator does what statements ask for.** -/
theorem AllEmit.run_eq_some (h : AllEmit g body g') (ht : g.target = .dc)
    (hs : Spelled (body.flatMap Stmt.literals)) (hf : g.Fits types) (hc : c.Keeps a g precision w)
    (hsteps : g'.steps = g.steps ++ steps) :
    ∃ c' deeds, a.run (steps.flatMap (Step.commands precision)) c = some (c', deeds) ∧
      c'.Keeps a g' precision (courseAll a precision body w) ∧
      (courseAll a precision body w).deeds = w.deeds ++ deeds := by
  induction h generalizing types c w steps with
  | nil =>
    obtain rfl : steps = [] := by simpa using hsteps
    exact ⟨c, [], rfl, hc, (List.append_nil _).symm⟩
  | @cons g g₁ g' s body hs₁ hrest ih =>
    rw [List.flatMap_cons, spelled_append] at hs
    obtain ⟨first, more, rfl, hfirst, hmore⟩ := hs₁.split_steps hrest hsteps
    obtain ⟨c₁, ds, hrun₁, hc₁, hds⟩ := hs₁.run_eq_some ht hs.1 hf hc hfirst
    obtain ⟨c', es, hrun', hc', hes⟩ :=
      ih (hs₁.target_eq.trans ht) hs.2 (hs₁.fits hf) hc₁ hmore
    refine ⟨c', ds ++ es, ?_, hc', ?_⟩
    · rw [List.flatMap_append]
      exact Arithmetic.run_append hrun₁ hrun'
    · rw [courseAll, List.foldl_cons, ← courseAll, hes, hds, List.append_assoc]

theorem AllEmit.take (h : AllEmit g body g') (count : Nat) :
    ∃ g₁, AllEmit g (body.take count) g₁ ∧ AllEmit g₁ (body.drop count) g' := by
  induction h generalizing count with
  | nil => exact ⟨_, by simpa using .nil, by simpa using .nil⟩
  | cons hs hrest ih =>
    cases count with
    | zero => exact ⟨_, .nil, .cons hs hrest⟩
    | succ count =>
      obtain ⟨g₁, hfront, hbehind⟩ := ih count
      exact ⟨g₁, .cons hs hfront, hbehind⟩

end Stmt

/-! ### Programs -/

/-- The only way to split the text for a program is into the commands of its steps. -/
theorem splits_dcText_iff {q : Program} {file : Option String} {g : Generator}
    (hg : generate q .dc file = .ok g) (hs : Spelled q.literals) (precision : Nat)
    (split : List Command) :
    Dc.Splits (dcText precision g.steps).toList split ↔
      split = g.steps.flatMap (Step.commands precision) := by
  have hsplits : Dc.Splits (dcText precision g.steps).toList
      (g.steps.flatMap (Step.commands precision)) := by
    refine Dc.splits_dcText precision fun text ty hl => ?_
    rcases (generate_eq_ok_iff.mp hg).literal_mem hl with hl | hl
    · cases List.mem_singleton.mp hl
    · exact Dc.isNumeral_dcLiteral (hs _ hl).2
  exact ⟨hsplits.unique, fun he => he ▸ hsplits⟩

theorem compile_dc_of_generate {q : Program} {file : Option String} {g : Generator}
    (hg : generate q .dc file = .ok g) (precision : Nat) :
    q.compile file ⟨.dc, precision⟩ = .ok (dcText precision g.steps) := by
  rw [compile_of_generate hg, Generator.output, (generate_eq_ok_iff.mp hg).target_eq]
  rfl

/-- **Running the code of a program does what the program asks for**, in any arithmetic. -/
theorem run_commands_of_generate {p q : Program} {file : Option String} {g : Generator} {n : Nat}
    {scopes : Scopes} (ha : Stmt.AllAccepted .start p.body q.body n scopes)
    (hs : Spelled q.literals) (hg : generate q .dc file = .ok g) (precision : Nat) {ν : Type}
    (a : Arithmetic ν) :
    ∃ c, a.run (g.steps.flatMap (Step.commands precision)) (.start a.zero) =
        some (c, (p.course a precision).deeds) ∧
      c.Keeps a g precision (p.course a precision) := by
  have hemit := generate_eq_ok_iff.mp hg
  obtain ⟨steps, hsteps⟩ := hemit.steps_le
  have hpreamble : a.run (precisionCommands precision) (.start a.zero) = _ :=
    Arithmetic.run_precision precision
  obtain ⟨c, deeds, hrun, hc, hdeeds⟩ := hemit.run_eq_some rfl hs
    ((Generator.fits_start ..).took _) (Calculator.keeps_start file precision) hsteps.symm
  have hcourse : Stmt.courseAll a precision q.body (.start a) = p.course a precision :=
    ha.course_eq (Scopes.hasTypes_start _)
  rw [hcourse] at hc hdeeds
  refine ⟨c, ?_, hc⟩
  rw [← hsteps, List.flatMap_append, hdeeds]
  exact Arithmetic.run_append hpreamble hrun

theorem Spelled.take {q : Program} (h : Spelled q.literals) (count : Nat) :
    Spelled (q.take count).literals := by
  intro l hl
  obtain ⟨s, hs, hl⟩ := List.mem_flatMap.mp hl
  exact h l (List.mem_flatMap.mpr ⟨s, List.mem_of_mem_take hs, hl⟩)

/-- **The text for the calculator keeps its discipline.** A source text that passes the check gets a
text that splits into commands in one way only. The commands of its first statements, however many,
run to the end in any arithmetic in which no operation fails: the stack never falls short and is empty
afterwards, and the precision is again the one that was asked for. What the commands do is what the
tree of the source text asks for: each variable that is loaded gives the number last stored in it, and
each operation is done with the precision that was asked for, or with none if it is a quotient of two
integers. This is about texts with fewer than `2 ^ 32` declarations, for which a slot counter of 32 bits does
not start again (`Generator`). -/
theorem dc_text_disciplined {source : String} {file : Option String} {q : Program}
    (hq : checkSource source file = .ok q) (precision : Nat) :
    ∃ p text commands, parse source file = .ok p ∧
      compile source file ⟨.dc, precision⟩ = .ok text ∧
      (∀ split, Dc.Splits text.toList split ↔ split = commands) ∧
      ∀ count, ∃ front begun, (q.take count).compile file ⟨.dc, precision⟩ = .ok front ∧
        (∀ split, Dc.Splits front.toList split ↔ split = begun) ∧ begun <+: commands ∧
        ∀ (ν : Type) (a : Dc.Arithmetic ν), ∃ c,
          a.run begun (.start a.zero) = some (c, ((p.take count).course a precision).deeds) ∧
          c.stack = [] ∧ c.precision = precision ∧
          c.printed = ((p.take count).course a precision).printed := by
  obtain ⟨p, n, scopes, hp, ha⟩ := accepted_of_checkSource hq
  obtain ⟨g, hg⟩ := exists_generate_of_accepted hp ha .dc file
  have hs := spelled_of_accepted hp ha
  refine ⟨p, dcText precision g.steps, _, hp, ?_, splits_dcText_iff hg hs precision, fun count => ?_⟩
  · rw [compile, hq]
    exact compile_dc_of_generate hg precision
  · -- the first statements are a program of their own, with the same steps
    obtain ⟨g₁, hfront, hbehind⟩ := (generate_eq_ok_iff.mp hg).take count
    have hg₁ : generate (q.take count) .dc file = .ok g₁ := generate_eq_ok_iff.mpr hfront
    obtain ⟨_, _, ha₁⟩ := ha.take count
    refine ⟨dcText precision g₁.steps, _, compile_dc_of_generate hg₁ precision,
      splits_dcText_iff hg₁ (hs.take count) precision, ?_, fun ν a => ?_⟩
    · obtain ⟨more, hmore⟩ := hbehind.steps_le
      rw [← hmore, List.flatMap_append]
      exact List.prefix_append _ _
    · have ha₁ : Stmt.AllAccepted .start (p.take count).body (q.take count).body _ _ := ha₁
      obtain ⟨c, hrun, hc⟩ := run_commands_of_generate ha₁ (hs.take count) hg₁ precision a
      exact ⟨c, hrun, hc.stack, hc.precision, hc.printed⟩

/-! ### An arithmetic of rationals -/

/-- An arithmetic of rationals: quotients are cut off behind the last fractional digit, and all else
is exact. -/
def Dc.rationals : Dc.Arithmetic ℚ where
  zero := 0
  numeral text :=
    Number.digitsValue (text.filter (· ≠ '.')) / 10 ^ (text.dropWhile (· ≠ '.')).tail.length
  operate precision
    | .add, l, r => l + r
    | .sub, l, r => l - r
    | .mul, l, r => l * r
    | .div, l, r =>
      let q := l / r * 10 ^ precision
      q.num.tdiv q.den / 10 ^ precision
  natural? x := if x.den = 1 then x.num.toNat? else none
  shown := toString
  natural?_numeral digits h := by
    rw [Number.isDigits, Bool.and_eq_true, List.all_eq_true] at h
    have hpoint : ∀ c ∈ digits, decide (c ≠ '.') = true := by
      intro c hc
      rw [decide_eq_true_iff]
      rintro rfl
      exact absurd (h.2 _ hc) (by decide)
    have hvalue : (Number.digitsValue (digits.filter (· ≠ '.')) : ℚ) /
        10 ^ (digits.dropWhile (· ≠ '.')).tail.length = (Number.digitsValue digits : ℚ) := by
      rw [List.filter_eq_self.mpr hpoint, List.dropWhile_eq_nil_iff.mpr hpoint, List.tail_nil,
        List.length_nil, pow_zero, div_one]
    rw [hvalue, if_pos (Rat.den_natCast _), Rat.num_natCast]
    rfl

/-- What the first statements of `mixedSource` ask for, up to the first line that is printed: among it a
quotient of two integers, and the same quotient of decimals. -/
def mixedDeeds : List (Deed ℚ) :=
  [.loaded 7, .operated .div 0 7 2, .loaded 0, .operated .add 20 3 0, .loaded 3, .loaded 0,
    .operated .mul 20 3 0, .loaded 7, .operated .div 20 7 2, .operated .sub 20 0 (7 / 2),
    .loaded (-7 / 2)]

theorem dc_text_disciplined_mixed :
    ∃ (q p : Program) (front : String) (begun : List Command) (c : Calculator ℚ),
      checkSource mixedSource none = .ok q ∧ parse mixedSource none = .ok p ∧
      (q.take 5).compile none ⟨.dc, 20⟩ = .ok front ∧
      (∀ split, Dc.Splits front.toList split ↔ split = begun) ∧
      Dc.rationals.run begun (.start 0) = some (c, mixedDeeds) ∧
      c.stack = [] ∧ c.precision = 20 ∧ c.printed = ["-7/2"] := by
  obtain ⟨q, hq⟩ := Except.exists_of_isOk (x := checkSource mixedSource none) (by decide +kernel)
  obtain ⟨p, text, commands, hp, -, -, hall⟩ := dc_text_disciplined hq 20
  obtain ⟨front, begun, hfront, hsplit, -, hruns⟩ := hall 5
  obtain ⟨c, hrun, hstack, hprecision, hprinted⟩ := hruns ℚ Dc.rationals
  have hcourse : ((parse mixedSource none).toOption.map fun p =>
      (((p.take 5).course Dc.rationals 20).deeds, ((p.take 5).course Dc.rationals 20).printed)) =
        some (mixedDeeds, ["-7/2"]) := by decide +kernel
  rw [hp] at hcourse
  obtain ⟨hdeeds, hlines⟩ := Prod.mk.inj (Option.some.inj hcourse)
  rw [hdeeds] at hrun
  rw [hlines] at hprinted
  exact ⟨q, p, front, begun, c, hq, hp, hfront, hsplit, hrun, hstack, hprecision, hprinted⟩

end DeskCalc
