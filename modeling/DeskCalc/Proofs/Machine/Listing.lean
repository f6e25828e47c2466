import DeskCalc.Machine.Instruction
import DeskCalc.Proofs.Number.Printed

/-!
Listings of bytecode. A listing is cut back into its lines (`Bytecode.split_written`), and a line into the
name of the instruction and its operand (`Instruction.split_written`); names and operands are told apart by
their text. Main statement: programs with one listing have the same slots and the same instructions
(`listing_determines_program`).
-/

namespace DeskCalc

/-! ### Pieces -/

/-- A text without separators is the first piece of what a separator follows it in. -/
theorem Text.pieces_append_separator {separator : Char} {text : List Char} (h : separator ∉ text)
    (after : List Char) :
    pieces separator (text ++ separator :: after) = text :: pieces separator after := by
  induction text with
  | nil => rw [List.nil_append, pieces, if_pos rfl]
  | cons c text ih =>
    have hc : c ≠ separator := fun he => h (he ▸ List.mem_cons_self)
    rw [List.cons_append, pieces, if_neg hc, ih fun hmem => h (List.mem_cons_of_mem c hmem)]

theorem Text.pieces_of_not_mem {separator : Char} {text : List Char} (h : separator ∉ text) :
    pieces separator text = [text] := by
  induction text with
  | nil => rfl
  | cons c text ih =>
    have hc : c ≠ separator := fun he => h (he ▸ List.mem_cons_self)
    rw [pieces, if_neg hc, ih fun hmem => h (List.mem_cons_of_mem c hmem)]

/-! ### Names and operands -/

/-- An instruction without its operand. -/
inductive Opcode where
  | push (ty : Ty)
  | load (ty : Ty)
  | store (ty : Ty)
  | arithmetic (operator : Operator) (ty : Ty)
  | widen
  | print (ty : Ty)
  | pop
  deriving DecidableEq

def Opcode.mnemonic : Opcode → String
  | push ty => ty.letter ++ "push"
  | load ty => ty.letter ++ "load"
  | store ty => ty.letter ++ "store"
  | arithmetic operator ty => ty.letter ++ operator.mnemonic
  | widen => "i2f"
  | print ty => ty.letter ++ "print"
  | pop => "pop"

/-- The eighteen instructions without operands. -/
def Opcode.all : List Opcode :=
  [push .int, push .float, load .int, load .float, store .int, store .float,
    arithmetic .add .int, arithmetic .add .float, arithmetic .sub .int, arithmetic .sub .float,
    arithmetic .mul .int, arithmetic .mul .float, arithmetic .div .int, arithmetic .div .float,
    widen, print .int, print .float, pop]

theorem Opcode.mem_all (o : Opcode) : o ∈ all := by
  rcases o with (_ | _) | (_ | _) | (_ | _) | ⟨_ | _ | _ | _, _ | _⟩ | _ | (_ | _) | _ <;> decide

/-- The names differ. -/
theorem Opcode.mnemonic_injective : Function.Injective mnemonic := by
  have hnodup : (all.map mnemonic).Nodup := by decide
  intro a b h
  exact List.inj_on_of_nodup_map hnodup a.mem_all b.mem_all h

theorem Opcode.not_isWhitespace_mnemonic (o : Opcode) :
    ∀ c ∈ o.mnemonic.toList, c.isWhitespace = false := by
  have hall : (all.all fun o => o.mnemonic.toList.all fun c => !c.isWhitespace) = true := by decide
  simpa using List.all_eq_true.mp hall o o.mem_all

/-- Neither the text of a word nor that of a double has a blank in it. -/
theorem Value.not_isWhitespace_written (v : Value) :
    ∀ c ∈ v.written.toList, c.isWhitespace = false := by
  cases v with
  | int n =>
    obtain ⟨i, hi, -⟩ := Option.bind_eq_some_iff.mp (Number.readWord?_printWord n)
    exact Number.not_isWhitespace_of_readInteger? hi
  | float x =>
    obtain ⟨n, hn, -⟩ := Number.readNumeral?_printDouble x
    exact Number.not_isWhitespace_of_readNumeral? hn

/-- A value is known by its type and its text. -/
theorem Value.eq_of_written {v w : Value} (hty : v.ty = w.ty) (h : v.written = w.written) : v = w := by
  cases v with
  | int n =>
    cases w with
    | int m => rw [Number.printWord_injective h]
    | float y => cases hty
  | float x =>
    cases w with
    | int m => cases hty
    | float y => rw [Number.printDouble_injective h]

namespace Instruction

def opcode : Instruction → Opcode
  | push value => .push value.ty
  | load ty _ => .load ty
  | store ty _ => .store ty
  | arithmetic operator ty => .arithmetic operator ty
  | widen => .widen
  | print ty => .print ty
  | pop => .pop

def operand? : Instruction → Option String
  | push value => some value.written
  | load _ slot => some (toString slot)
  | store _ slot => some (toString slot)
  | _ => none

/-- In the listing a blank stands between the name and the operand. -/
theorem written_eq (i : Instruction) :
    i.written = i.opcode.mnemonic ++ (i.operand?.map (" " ++ ·)).getD "" := by
  have hoperand : ∀ letter name text : String,
      letter ++ (name ++ " ") ++ text = letter ++ name ++ (" " ++ text) := by
    intro letter name text
    simp only [String.append_assoc]
  cases i with
  | push value => exact hoperand value.ty.letter "push" value.written
  | load ty slot => exact hoperand ty.letter "load" (toString slot)
  | store ty slot => exact hoperand ty.letter "store" (toString slot)
  | _ => exact String.append_empty.symm

theorem not_isWhitespace_operand {i : Instruction} {text : String} (h : i.operand? = some text) :
    ∀ c ∈ text.toList, c.isWhitespace = false := by
  have hslot : ∀ slot : ℕ, ∀ c ∈ (toString slot).toList, c.isWhitespace = false :=
    fun slot => (Dc.isWord_digits (Dc.isDigits_toString slot)).2
  cases i with
  | push value =>
    cases h
    exact value.not_isWhitespace_written
  | load ty slot =>
    cases h
    exact hslot slot
  | store ty slot =>
    cases h
    exact hslot slot
  | _ => cases h

/-- A line is cut into the name and the operand. -/
theorem split_written (i : Instruction) :
    Text.split ' ' i.written = i.opcode.mnemonic :: i.operand?.toList := by
  have hblank : ∀ {text : List Char}, (∀ c ∈ text, c.isWhitespace = false) → ' ' ∉ text := by
    intro text h hmem
    cases h ' ' hmem
  have hname := hblank i.opcode.not_isWhitespace_mnemonic
  rw [written_eq, Text.split]
  cases hoperand : i.operand? with
  | none =>
    rw [Option.map_none, Option.getD_none, String.append_empty, Text.pieces_of_not_mem hname]
    simp
  | some text =>
    have htext := hblank (not_isWhitespace_operand hoperand)
    rw [Option.map_some, Option.getD_some, String.toList_append, String.toList_append]
    have hpieces := Text.pieces_append_separator hname text.toList
    rw [Text.pieces_of_not_mem htext] at hpieces
    have hcons : " ".toList ++ text.toList = ' ' :: text.toList := rfl
    rw [hcons, hpieces]
    simp

/-- The same instruction with the same operand, where doubles are compared bit by bit. -/
inductive Same : Instruction → Instruction → Prop
  | word (n : Int64) : Same (push (.int n)) (push (.int n))
  | double {x y : Float} : x.toBits = y.toBits → Same (push (.float x)) (push (.float y))
  | load (ty : Ty) (slot : ℕ) : Same (load ty slot) (load ty slot)
  | store (ty : Ty) (slot : ℕ) : Same (store ty slot) (store ty slot)
  | arithmetic (operator : Operator) (ty : Ty) : Same (arithmetic operator ty) (arithmetic operator ty)
  | widen : Same widen widen
  | print (ty : Ty) : Same (print ty) (print ty)
  | pop : Same pop pop

theorem same_iff {i j : Instruction} : i.Same j ↔ i = j := by
  constructor
  · intro h
    cases h with
    | double hbits => rw [Float.toBits_inj.mp hbits]
    | _ => rfl
  · rintro rfl
    cases i with
    | push value => cases value with
      | int n => exact .word n
      | float x => exact .double rfl
    | load ty slot => exact .load ty slot
    | store ty slot => exact .store ty slot
    | arithmetic operator ty => exact .arithmetic operator ty
    | widen => exact .widen
    | print ty => exact .print ty
    | pop => exact .pop

/-- The name and the operand are all of an instruction. -/
theorem eq_of_parts {i j : Instruction} (hname : i.opcode = j.opcode)
    (hoperand : i.operand? = j.operand?) : i = j := by
  have hslot : ∀ {n m : ℕ}, some (toString n) = some (toString m) → n = m :=
    fun h => Nat.repr_injective (Option.some.inj h)
  cases i with
  | push v =>
    cases j with
    | push w =>
      rw [Value.eq_of_written (Opcode.push.inj hname) (Option.some.inj hoperand)]
    | _ => cases hname
  | load ty slot =>
    cases j with
    | load ty' slot' =>
      rw [Opcode.load.inj hname, hslot hoperand]
    | _ => cases hname
  | store ty slot =>
    cases j with
    | store ty' slot' =>
      rw [Opcode.store.inj hname, hslot hoperand]
    | _ => cases hname
  | arithmetic operator ty =>
    cases j with
    | arithmetic operator' ty' =>
      cases hname
      rfl
    | _ => cases hname
  | print ty =>
    cases j with
    | print ty' =>
      cases hname
      rfl
    | _ => cases hname
  | widen | pop =>
    cases j <;> cases hname
    rfl

/-- **A line determines the instruction.** -/
theorem written_injective : Function.Injective written := by
  intro i j h
  have hwords := i.split_written
  rw [h, j.split_written] at hwords
  obtain ⟨hname, hoperand⟩ := List.cons.inj hwords
  refine (eq_of_parts (Opcode.mnemonic_injective hname) ?_).symm
  simpa using congrArg List.head? hoperand

theorem newline_not_mem_written (i : Instruction) : '\n' ∉ i.written.toList := by
  intro hmem
  rw [written_eq, String.toList_append, List.mem_append] at hmem
  rcases hmem with hmem | hmem
  · cases i.opcode.not_isWhitespace_mnemonic _ hmem
  · cases hoperand : i.operand? with
    | none =>
      rw [hoperand] at hmem
      cases hmem
    | some text =>
      rw [hoperand, Option.map_some, Option.getD_some, String.toList_append] at hmem
      rcases List.mem_cons.mp hmem with hblank | hmem
      · cases hblank
      · cases not_isWhitespace_operand hoperand _ hmem

end Instruction

/-! ### Lines -/

/-- Lines that end in a newline are cut apart at the newlines. -/
theorem Text.split_join {lines : List String} (h : ∀ line ∈ lines, '\n' ∉ line.toList) :
    split '\n' (String.join (lines.map (· ++ "\n"))) = lines ++ [""] := by
  induction lines with
  | nil => rfl
  | cons line lines ih =>
    obtain ⟨hline, hlines⟩ := List.forall_mem_cons.mp h
    have hpieces := pieces_append_separator hline (String.join (lines.map (· ++ "\n"))).toList
    have hcons : ("\n" ++ String.join (lines.map (· ++ "\n"))).toList =
        '\n' :: (String.join (lines.map (· ++ "\n"))).toList := String.toList_append ..
    rw [List.map_cons, String.join_cons, String.append_assoc, split, String.toList_append, hcons,
      hpieces, List.map_cons, String.ofList_toList, ← split, ih hlines, List.cons_append]

namespace Bytecode

def lines (p : Bytecode) : List String :=
  (".slots " ++ toString p.slots) :: p.instructions.map Instruction.written

theorem newline_not_mem_lines (p : Bytecode) : ∀ line ∈ p.lines, '\n' ∉ line.toList := by
  refine List.forall_mem_cons.mpr ⟨?_, ?_⟩
  · rw [String.toList_append, List.mem_append]
    rintro (hmem | hmem)
    · exact absurd hmem (by decide)
    · cases (Dc.isWord_digits (Dc.isDigits_toString p.slots)).2 _ hmem
  · intro line hline
    obtain ⟨i, -, rfl⟩ := List.mem_map.mp hline
    exact i.newline_not_mem_written

/-- A listing is cut into its lines; nothing stands behind the last one. -/
theorem split_written (p : Bytecode) : Text.split '\n' p.written = p.lines ++ [""] := by
  have hjoin : p.written = String.join (p.lines.map (· ++ "\n")) := by
    rw [lines, List.map_cons, String.join_cons, List.map_map]
    rfl
  rw [hjoin, Text.split_join p.newline_not_mem_lines]

end Bytecode

/-- **A listing determines the program.** Two programs with the same listing have the same number of slots
and the same instructions in the same order, with the same operands. No constant is excepted, since there
is only one double that is not a number. -/
theorem listing_determines_program (p q : Bytecode) :
    p.written = q.written ↔
      p.slots = q.slots ∧ List.Forall₂ Instruction.Same p.instructions q.instructions := by
  have hsame : Instruction.Same = Eq := by
    funext i j
    exact propext Instruction.same_iff
  rw [hsame, List.forall₂_eq_eq_eq]
  constructor
  · intro h
    have hlines := p.split_written
    rw [h, q.split_written] at hlines
    obtain ⟨hslots, hinstructions⟩ := List.cons.inj (List.append_cancel_right hlines).symm
    exact ⟨Nat.repr_injective ((String.append_right_inj _).mp hslots),
      List.map_injective_iff.mpr Instruction.written_injective hinstructions⟩
  · rintro ⟨hslots, hinstructions⟩
    rw [Bytecode.written, Bytecode.written, hslots, hinstructions]

-- an integer and a double print alike up to the letter of the name, and so do the two zeros up to the sign
example : (⟨1, [.push (.int 0), .push (.float 0.0), .push (.float (-0.0)), .store .float 0]⟩ :
    Bytecode).written = ".slots 1\nipush 0\nfpush 0.0\nfpush -0.0\nfstore 0\n" := by
  decide +kernel

end DeskCalc
