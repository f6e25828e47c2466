import DeskCalc.Machine.Value
import DeskCalc.Proofs.Dc.Words
import DeskCalc.Proofs.Machine.Simulation
import Mathlib.Logic.Function.Basic

/-!
The calculator that texts are written for. It is not part of this library: what its commands do is a
parameter, and what is relied on is listed in `Calculator.Documented`, for numbers of any type in which
the integers are found. Main statements: what the words of a step do to the calculator, as far as it
works on integers (`run_load`, `run_store`, `run_print`, `run_binary`).
-/

namespace DeskCalc

/-- The state of the calculator: the stack with its top first, a number for every register and for
every index of its array, the number of fractional digits, and the lines that were printed. -/
structure Calculator (ν : Type) where
  stack : List ν
  registers : Char → ν
  arrays : Char → Nat → ν
  precision : Nat
  printed : List String

namespace Calculator

variable {ν : Type}

/-- A calculator that was just begun; what was never set reads as zero. -/
def start (zero : ν) : Calculator ν :=
  ⟨[], fun _ => zero, fun _ _ => zero, 0, []⟩

def push (c : Calculator ν) (x : ν) : Calculator ν :=
  { c with stack := x :: c.stack }

def setRegister (c : Calculator ν) (name : Char) (x : ν) : Calculator ν :=
  { c with registers := Function.update c.registers name x }

def setElement (c : Calculator ν) (name : Char) (index : Nat) (x : ν) : Calculator ν :=
  { c with arrays := Function.update c.arrays name (Function.update (c.arrays name) index x) }

def run (command : String → Calculator ν → Calculator ν) (ws : List String) (c : Calculator ν) :
    Calculator ν :=
  ws.foldl (fun c w => command w c) c

/-- The calculator after a text, whose words are commands. -/
def execute (command : String → Calculator ν → Calculator ν) (text : String) (c : Calculator ν) :
    Calculator ν :=
  run command (Dc.words text.toList) c

/-- **What is relied on of the commands.** A run of digits pushes a number; `l` and `s` read and set
a register, `;` and `:` an element of its array, which has nothing to do with the number in the
register; addition, subtraction and multiplication are exact on integers, and division without
fractional digits cuts off toward zero; `k` pops the precision; `p` prints the top and leaves it.
Negative numerals are not needed, because source texts have none. -/
structure Documented (number : Int → ν) (command : String → Calculator ν → Calculator ν) : Prop where
  numeral : ∀ c ds, Number.isDigits ds = true →
    command (String.ofList ds) c = c.push (number (Number.digitsValue ds))
  load : ∀ (c : Calculator ν) (r : Char), r.isAlpha = true →
    command ("l" ++ r.toString) c = c.push (c.registers r)
  store : ∀ (c : Calculator ν) (r : Char) x, r.isAlpha = true →
    command ("s" ++ r.toString) (c.push x) = c.setRegister r x
  fetch : ∀ (c : Calculator ν) (r : Char) (index : Nat), r.isAlpha = true →
    command (";" ++ r.toString) (c.push (number index)) = c.push (c.arrays r index)
  put : ∀ (c : Calculator ν) (r : Char) (index : Nat) x, r.isAlpha = true →
    command (":" ++ r.toString) ((c.push x).push (number index)) = c.setElement r index x
  exact : ∀ (c : Calculator ν) (operator : Operator) (l r : Int), operator ≠ .div →
    command operator.sign ((c.push (number l)).push (number r)) =
      c.push (number (operator.exact l r))
  quotient : ∀ (c : Calculator ν) (l r : Int), c.precision = 0 → r ≠ 0 →
    command "/" ((c.push (number l)).push (number r)) = c.push (number (l.tdiv r))
  precision : ∀ (c : Calculator ν) (k : Nat),
    command "k" (c.push (number k)) = { c with precision := k }
  print : ∀ (c : Calculator ν) (n : Int),
    command "p" (c.push (number n)) =
      { c.push (number n) with printed := c.printed ++ [toString n] }

/-! ### Variables -/

def read (c : Calculator ν) : Storage → ν
  | .register name => c.registers name
  | .spilled index => c.arrays 'i' index

def write (c : Calculator ν) (x : ν) : Storage → Calculator ν
  | .register name => c.setRegister name x
  | .spilled index => c.setElement 'i' index x

theorem read_write_self (c : Calculator ν) (x : ν) (place : Storage) :
    (c.write x place).read place = x := by
  cases place with
  | register name => exact Function.update_self ..
  | spilled index => simp only [write, read, setElement, Function.update_self]

theorem read_write_ne (c : Calculator ν) (x : ν) {place other : Storage} (h : other ≠ place) :
    (c.write x place).read other = c.read other := by
  cases place with
  | register name =>
    cases other with
    | register name' =>
      have hn : name' ≠ name := fun he => h (he ▸ rfl)
      exact Function.update_of_ne hn _ _
    | spilled index => rfl
  | spilled index =>
    cases other with
    | register name => rfl
    | spilled index' =>
      have hi : index' ≠ index := fun he => h (he ▸ rfl)
      simp only [write, read, setElement, Function.update_self, Function.update_of_ne hi]

/-- The register that printing uses holds no variable. -/
theorem read_setRegister_i (c : Calculator ν) (x : ν) (slot : Nat) :
    (c.setRegister 'i' x).read (Storage.ofSlot slot) = c.read (Storage.ofSlot slot) := by
  cases hs : Storage.ofSlot slot with
  | register name =>
    obtain ⟨-, hi⟩ := isAlpha_of_mem_registers (Storage.register_mem hs)
    exact Function.update_of_ne hi _ _
  | spilled index => rfl

theorem write_stack (c : Calculator ν) (x : ν) (place : Storage) :
    (c.write x place).stack = c.stack := by
  cases place <;> rfl

theorem write_precision (c : Calculator ν) (x : ν) (place : Storage) :
    (c.write x place).precision = c.precision := by
  cases place <;> rfl

theorem write_printed (c : Calculator ν) (x : ν) (place : Storage) :
    (c.write x place).printed = c.printed := by
  cases place <;> rfl

section Scope

variable {g : Generator} {types : List Ty} (hf : g.Fits types) {name : String} {ty : Ty} {slot : Nat}
  (hl : g.scopes.lookup name = some ⟨ty, some slot⟩) (c : Calculator ν) (x : ν)

include hf hl

/-- Of the variables in scope the one that is written changes, and no other one. -/
theorem read_write_scope {other : String} {ty' : Ty} {slot' : Nat}
    (ho : g.scopes.lookup other = some ⟨ty', some slot'⟩) :
    (c.write x (.ofSlot slot)).read (.ofSlot slot') =
      if other = name then x else c.read (.ofSlot slot') := by
  by_cases hn : other = name
  · subst hn
    rw [hl] at ho
    cases ho
    rw [if_pos rfl, read_write_self]
  · have hne : Storage.ofSlot slot' ≠ Storage.ofSlot slot := fun he =>
      hf.scopes.slot_ne ho hl hn (congrArg some (Storage.ofSlot_injective he))
    rw [if_neg hn, read_write_ne c x hne]

/-- The places that were not given yet do not change. -/
theorem read_write_unused {slot' : Nat} (hs : g.slotsUsed ≤ slot') :
    (c.write x (.ofSlot slot)).read (.ofSlot slot') = c.read (.ofSlot slot') := by
  have hlt := hf.scopes.slot_lt hl
  have hlen := hf.length
  refine read_write_ne c x fun he => ?_
  have hslot := Storage.ofSlot_injective he
  omega

end Scope

/-! ### Steps -/

theorem run_append (command : String → Calculator ν → Calculator ν) (ws more : List String)
    (c : Calculator ν) : run command (ws ++ more) c = run command more (run command ws c) :=
  List.foldl_append

namespace Documented

variable {number : Int → ν} {command : String → Calculator ν → Calculator ν}

theorem command_toString (h : Documented number command) (c : Calculator ν) (n : Nat) :
    command (toString n) c = c.push (number n) := by
  have hn := h.numeral c _ (Dc.isDigits_toString n)
  rwa [Dc.digitsValue_toString, String.ofList_toList] at hn

theorem run_load (h : Documented number command) (c : Calculator ν) (slot : Nat) :
    run command (Storage.ofSlot slot).loadWords c = c.push (c.read (Storage.ofSlot slot)) := by
  cases hs : Storage.ofSlot slot with
  | register name =>
    obtain ⟨hn, -⟩ := isAlpha_of_mem_registers (Storage.register_mem hs)
    exact h.load c name hn
  | spilled index =>
    show command ";i" (command (toString index) c) = _
    rw [h.command_toString]
    exact h.fetch c 'i' index rfl

theorem run_store (h : Documented number command) (c : Calculator ν) (slot : Nat) (x : ν) :
    run command (Storage.ofSlot slot).storeWords (c.push x) = c.write x (Storage.ofSlot slot) := by
  cases hs : Storage.ofSlot slot with
  | register name =>
    obtain ⟨hn, -⟩ := isAlpha_of_mem_registers (Storage.register_mem hs)
    exact h.store c name x hn
  | spilled index =>
    show command ":i" (command (toString index) (c.push x)) = _
    rw [h.command_toString]
    exact h.put c 'i' index x rfl

/-- Printing leaves the stack as it was and uses up one register. -/
theorem run_print (h : Documented number command) {precision : Nat} {c : Calculator ν} {slot : Nat}
    {ty : Ty} {n : Int} (hn : c.read (Storage.ofSlot slot) = number n) :
    run command ((Step.print slot ty).words precision) c =
      { c.setRegister 'i' (number n) with printed := c.printed ++ [toString n] } := by
  rw [Step.words, run_append, h.run_load, hn]
  show command "si" (command "p" (c.push (number n))) = _
  rw [h.print]
  exact h.store { c with printed := c.printed ++ [toString n] } 'i' (number n) rfl

theorem run_precision (h : Documented number command) (c : Calculator ν) (precision : Nat) :
    run command [toString precision, "k"] c = { c with precision } := by
  show command "k" (command (toString precision) c) = _
  rw [h.command_toString, h.precision]

/-- An operation on integers is exact, and the precision is what it was before. -/
theorem run_binary (h : Documented number command) {precision : Nat} {c : Calculator ν}
    (hp : c.precision = precision) (operator : Operator) {l r : Int}
    (hr : ¬(operator = .div ∧ r = 0)) :
    run command ((Step.binary operator .int).words precision)
      ((c.push (number l)).push (number r)) = c.push (number (operator.exact l r)) := by
  by_cases hd : operator = .div
  · subst hd
    have hr' : r ≠ 0 := fun he => hr ⟨rfl, he⟩
    have hzero : run command ["0", "k"] ((c.push (number l)).push (number r)) =
        (({ c with precision := 0 } : Calculator ν).push (number l)).push (number r) :=
      h.run_precision _ 0
    show run command [toString precision, "k"] (command "/" (run command ["0", "k"] _)) = _
    rw [hzero, h.quotient _ l r rfl hr', h.run_precision, ← hp]
    rfl
  · have hw : (Step.binary operator .int).words precision = [operator.sign] := by
      cases operator <;> first | rfl | exact absurd rfl hd
    rw [hw]
    exact h.exact c operator l r hd

end Documented

end Calculator

end DeskCalc
