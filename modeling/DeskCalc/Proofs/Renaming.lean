import DeskCalc.Proofs.Code.Relabel
import DeskCalc.Proofs.Typing.Relabel

/-!
Programs with other names. A name only tells variables apart: if different names are put for the
different names of a program, the checker and the generator do the same with it, and the output does
not show the names at all. Main statement: `renaming_keeps_checks_and_code`.
-/

namespace DeskCalc

/-- **Names do not matter.** Let `f` put different names for the different names of a program. Then the
renamed program is checked with the same number of conversions, to the renamed tree, and with the same
verdict, in which a diagnostic has the renamed name. Code for it, be it checked or not, is the same text
for each target and precision and the same program for the machine, or it is refused with the same
diagnostic about the renamed name. -/
theorem renaming_keeps_checks_and_code {p : Program} {f : String → String}
    (hf : Set.InjOn f {n | n ∈ p.names}) (file codeFile : Option String) :
    let ρ : Relabelling {n | n ∈ p.names} := .ofNames f hf
    (p.relabel ρ).check file = (p.check file).relabel ρ (Program.relabel ρ) ∧
    (∀ options, (p.relabel ρ).compile codeFile options =
      (p.compile codeFile options).mapError (Diagnostic.relabel ρ)) ∧
    (p.relabel ρ).bytecode codeFile = (p.bytecode codeFile).mapError (Diagnostic.relabel ρ) ∧
    (∀ options, ((p.relabel ρ).check file).tree.compile codeFile options =
      ((p.check file).tree.compile codeFile options).mapError (Diagnostic.relabel ρ)) ∧
    ((p.relabel ρ).check file).tree.bytecode codeFile =
      ((p.check file).tree.bytecode codeFile).mapError (Diagnostic.relabel ρ) := by
  intro ρ
  have hp : ∀ n ∈ p.names, n ∈ {n | n ∈ p.names} := fun _ h => h
  have hchecked : ∀ n ∈ (p.check file).tree.names, n ∈ {n | n ∈ p.names} := by
    rw [p.names_check file]
    exact hp
  have hcheck := p.check_relabel ρ hp file
  have htree : ((p.relabel ρ).check file).tree = (p.check file).tree.relabel ρ :=
    congrArg Checked.tree hcheck
  rw [htree]
  exact ⟨hcheck, p.compile_relabel ρ hp codeFile, p.bytecode_relabel ρ hp codeFile,
    Program.compile_relabel ρ hchecked codeFile, Program.bytecode_relabel ρ hchecked codeFile⟩

/-- A program in two names: `int a = 7;`, then `float b = a * 0.5;` and `a = b;`, which the checker
refuses. -/
def narrowingProgram : Program :=
  ⟨[.declaration ⟨"a", 1⟩ .int (some (.number "7" .int 1)) 1,
    .declaration ⟨"b", 2⟩ .float
      (some (.binary (.symbol "a" 2) .mul (.number "0.5" .float 2) 2)) 2,
    .assignment ⟨"a", 3⟩ (.symbol "b" 3) 3], 1⟩

/-- Each of two names put for the other one, and one of them for all further names. -/
def swapNames (name : String) : String :=
  if name = "a" then "b" else "a"

/-- The diagnostic is about the other name, the conversion that was made before it is there, and the
generator stops at the same place. -/
theorem renaming_keeps_checks_and_code_swapped :
    ∃ hf : Set.InjOn swapNames {n | n ∈ narrowingProgram.names},
      let renamed := narrowingProgram.relabel (.ofNames swapNames hf)
      (narrowingProgram.check none).verdict =
        .error ⟨.narrowingConversion "a" "int" "float", 3, "shell"⟩ ∧
      (renamed.check none).verdict =
        .error ⟨.narrowingConversion "b" "int" "float", 3, "shell"⟩ ∧
      (renamed.check none).inserted = 1 ∧
      (renamed.check none).tree.names = ["b", "a", "b", "b", "a"] ∧
      renamed.compile none ⟨.dc, 20⟩ =
        .error ⟨.uncheckedTypeMismatch "operands of `*`" "int" "float", 2, "shell"⟩ := by
  have hapart : ∀ m ∈ narrowingProgram.names, ∀ n ∈ narrowingProgram.names,
      swapNames m = swapNames n → m = n := by decide
  have hf : Set.InjOn swapNames {n | n ∈ narrowingProgram.names} :=
    fun m hm n hn => hapart m hm n hn
  obtain ⟨hcheck, hcompile, -⟩ := renaming_keeps_checks_and_code hf none none
  refine ⟨hf, rfl, ?_, ?_, ?_, ?_⟩
  · rw [hcheck]
    rfl
  · rw [hcheck]
    rfl
  · rw [hcheck]
    rfl
  · rw [hcompile]
    rfl

end DeskCalc
