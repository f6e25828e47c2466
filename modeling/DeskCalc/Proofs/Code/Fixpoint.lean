import DeskCalc.Proofs.Code.Bare

/-!
Generating code and type checking. The generator makes no conversions and refuses a tree in which one
is missing; so it accepts exactly the trees that the checker accepts and leaves as they are, if the
target can write their literals. Main statement: `generate_accepts_fixpoints`.
-/

namespace DeskCalc

def Target.HoldsAll (target : Target) (literals : List (String × Ty)) : Prop :=
  ∀ l ∈ literals, target.holds l.1 l.2 = true

namespace Target

theorem holdsAll_dc (literals : List (String × Ty)) : Target.dc.HoldsAll literals :=
  fun _ _ => rfl

theorem holdsAll_append {target : Target} {ls ms : List (String × Ty)} :
    target.HoldsAll (ls ++ ms) ↔ target.HoldsAll ls ∧ target.HoldsAll ms := by
  simp only [HoldsAll, List.mem_append, or_imp, forall_and]

end Target

/-! ### Expressions -/

namespace Expr

theorem Emits.elaborates {target : Target} {scopes : Scopes} {e : Expr} {steps : List Step} {ty : Ty}
    (h : e.Emits target scopes steps ty) : e.Elaborates scopes.bare e 0 ty := by
  induction h with
  | number => exact .number
  | symbol hs =>
    have hb := Scopes.lookup_bare_of hs
    exact Elaborates.symbol hb
  | @binary _ _ _ _ _ _ ty _ _ ihl ihr =>
    cases ty with
    | int => exact .integers ihl ihr
    | float => exact .doubles ihl ihr (by simp)
  | convert _ ih => exact .convert ih

theorem Emits.holdsAll {target : Target} {scopes : Scopes} {e : Expr} {steps : List Step} {ty : Ty}
    (h : e.Emits target scopes steps ty) : target.HoldsAll e.literals := by
  induction h with
  | number hh => simpa [Target.HoldsAll, literals] using hh
  | symbol => simp [Target.HoldsAll, literals]
  | binary _ _ ihl ihr => exact Target.holdsAll_append.mpr ⟨ihl, ihr⟩
  | convert _ ih => exact ih

/-- A tree that elaborates to itself has steps. -/
theorem Elaborates.emits {target : Target} {scopes : Scopes} (hb : scopes.Bound) {e e' : Expr}
    {n : Nat} {ty : Ty} (h : e.Elaborates scopes.bare e' n ty) (hn : n = 0)
    (hl : target.HoldsAll e.literals) : ∃ steps, e.Emits target scopes steps ty := by
  induction h with
  | number => exact ⟨_, .number (hl _ (List.mem_singleton_self _))⟩
  | symbol hs =>
    obtain ⟨slot, hs⟩ := hb.lookup hs
    exact ⟨_, .symbol hs⟩
  | integers _ _ ihl ihr =>
    obtain ⟨hll, hlr⟩ := Target.holdsAll_append.mp hl
    obtain ⟨ls, hls⟩ := ihl (by omega) hll
    obtain ⟨rs, hrs⟩ := ihr (by omega) hlr
    exact ⟨_, .binary hls hrs⟩
  | @doubles _ _ _ _ _ _ _ _ lt rt _ _ _ ihl ihr =>
    obtain ⟨hll, hlr⟩ := Target.holdsAll_append.mp hl
    obtain ⟨ls, hls⟩ := ihl (by omega) hll
    obtain ⟨rs, hrs⟩ := ihr (by omega) hlr
    -- an operand that is no double would have been converted
    cases lt with
    | int => simp only [Ty.widenings] at hn; omega
    | float =>
      cases rt with
      | int => simp only [Ty.widenings] at hn; omega
      | float => exact ⟨_, .binary hls hrs⟩
  | convert _ ih =>
    obtain ⟨steps, hs⟩ := ih hn hl
    exact ⟨_, .convert hs⟩

end Expr

/-! ### Statements -/

namespace Stmt

variable {g g' : Generator} {s s' : Stmt} {body body' : List Stmt} {n : Nat} {scopes : Scopes}

theorem Emits.target_eq (h : s.Emits g g') : g'.target = g.target := by
  cases h <;> rfl

theorem Emits.bound (h : s.Emits g g') (hb : g.scopes.Bound) : g'.scopes.Bound := by
  cases h with
  | declaration => exact hb.add _ _ _
  | initialised => exact hb.add _ _ _
  | assignment => exact hb
  | print => exact hb

theorem Emits.accepted (h : s.Emits g g') : s.Accepted g.scopes.bare s 0 g'.scopes.bare := by
  cases h with
  | declaration hn => exact .declaration (Scopes.inner_lookup_bare.mpr hn)
  | initialised hn he =>
    exact .initialised (Scopes.inner_lookup_bare.mpr hn) (.same he.elaborates)
  | assignment hl he => exact .assignment (Scopes.lookup_bare_of hl) (.same he.elaborates)
  | print hl => exact .print (Scopes.lookup_bare_of hl)

theorem Emits.holdsAll (h : s.Emits g g') : g.target.HoldsAll s.literals := by
  cases h with
  | declaration => simp [Target.HoldsAll, literals, value?]
  | initialised _ he => exact he.holdsAll
  | assignment _ he => exact he.holdsAll
  | print => simp [Target.HoldsAll, literals, value?]

/-- A statement that is accepted as it is emits steps, and leaves the names that the checker
leaves. -/
theorem Accepted.emits (hb : g.scopes.Bound) (h : s.Accepted g.scopes.bare s' 0 scopes)
    (hl : g.target.HoldsAll s.literals) : ∃ g', s.Emits g g' ∧ g'.scopes.bare = scopes := by
  cases h with
  | declaration hn => exact ⟨_, .declaration (Scopes.inner_lookup_bare.mp hn), rfl⟩
  | @initialised target ty _ _ _ _ hn hv =>
    have hb' : (g.allocated target.name ty).scopes.Bound := hb.add _ _ _
    obtain ⟨steps, he⟩ := hv.eq_of_zero.1.emits hb' rfl hl
    exact ⟨_, .initialised (Scopes.inner_lookup_bare.mp hn) he, rfl⟩
  | assignment hf hv =>
    obtain ⟨slot, hf⟩ := hb.lookup hf
    obtain ⟨steps, he⟩ := hv.eq_of_zero.1.emits hb rfl hl
    exact ⟨_, .assignment hf he, rfl⟩
  | print hf =>
    obtain ⟨slot, hf⟩ := hb.lookup hf
    exact ⟨_, .print hf, rfl⟩

/-! ### Statements in order -/

theorem AllEmit.target_eq (h : AllEmit g body g') : g'.target = g.target := by
  induction h with
  | nil => rfl
  | cons hs _ ih => exact ih.trans hs.target_eq

theorem AllEmit.accepted (h : AllEmit g body g') :
    AllAccepted g.scopes.bare body body 0 g'.scopes.bare := by
  induction h with
  | nil => exact .nil
  | cons hs _ ih => exact .cons hs.accepted ih

theorem AllEmit.holdsAll (h : AllEmit g body g') :
    g.target.HoldsAll (body.flatMap Stmt.literals) := by
  induction h with
  | nil => simp [Target.HoldsAll]
  | cons hs _ ih =>
    rw [List.flatMap_cons]
    exact Target.holdsAll_append.mpr ⟨hs.holdsAll, hs.target_eq ▸ ih⟩

theorem AllAccepted.allEmit (hb : g.scopes.Bound)
    (h : AllAccepted g.scopes.bare body body' 0 scopes)
    (hl : g.target.HoldsAll (body.flatMap Stmt.literals)) : ∃ g', AllEmit g body g' := by
  induction body generalizing g body' with
  | nil => exact ⟨g, .nil⟩
  | cons s body ih =>
    rw [List.flatMap_cons, Target.holdsAll_append] at hl
    generalize hn : 0 = k at h
    cases h with
    | @cons _ _ _ _ _ _ _ m n hs hrest =>
      obtain ⟨rfl, rfl⟩ : m = 0 ∧ n = 0 := by omega
      obtain ⟨g', hg, rfl⟩ := hs.emits hb hl.1
      obtain ⟨g'', hg'⟩ := ih (hg.bound hb) hrest (hg.target_eq ▸ hl.2)
      exact ⟨g'', .cons hg hg'⟩

end Stmt

/-! ### Programs -/

/-- Code is generated for a program exactly if it is accepted without a conversion and the target
can write its literals. -/
theorem exists_generate_iff {p : Program} {target : Target} {file : Option String} :
    (∃ g, generate p target file = .ok g) ↔
      (∃ scopes, Stmt.AllAccepted .start p.body p.body 0 scopes) ∧ target.HoldsAll p.literals := by
  constructor
  · rintro ⟨g, h⟩
    have h := generate_eq_ok_iff.mp h
    exact ⟨⟨_, h.accepted⟩, h.holdsAll⟩
  · rintro ⟨⟨scopes, h⟩, hl⟩
    obtain ⟨g, hg⟩ :=
      h.allEmit (g := (Generator.start target file).took [.preamble]) Scopes.bound_start hl
    exact ⟨g, generate_eq_ok_iff.mpr hg⟩

/-- A program passes the check without a conversion exactly if it is accepted as it is. -/
theorem Program.check_unchanged_iff {p : Program} {file : Option String} :
    (p.check file).verdict = .ok () ∧ (p.check file).inserted = 0 ↔
      ∃ scopes, Stmt.AllAccepted .start p.body p.body 0 scopes := by
  constructor
  · rintro ⟨hv, hn⟩
    obtain ⟨scopes, h⟩ := accepted_of_verdict hv
    rw [h.eq_of_zero hn, hn] at h
    exact ⟨scopes, h⟩
  · intro h
    rw [check_eq_ok_iff.mpr ⟨rfl, h⟩]
    exact ⟨rfl, rfl⟩

/-- The tree that an accepted program becomes is accepted as it is. -/
theorem Program.accepted_tree {p : Program} {file : Option String}
    (h : (p.check file).verdict = .ok ()) :
    (∃ scopes, Stmt.AllAccepted .start (p.check file).tree.body (p.check file).tree.body 0 scopes) ∧
      (p.check file).tree.literals = p.literals := by
  obtain ⟨scopes, ha⟩ := accepted_of_verdict h
  exact ⟨⟨scopes, ha.idempotent⟩, ha.literals⟩

/-- **The generator accepts the fixpoints of the checker.** Code for the calculator is generated for
a program exactly if the checker accepts it without a conversion, and code for the machine exactly if
moreover every literal stands for a number of its type. So after a successful check code is
generated. -/
theorem generate_accepts_fixpoints (p : Program) (file checkFile : Option String) :
    ((∃ g, generate p .dc file = .ok g) ↔
      (p.check checkFile).verdict = .ok () ∧ (p.check checkFile).inserted = 0) ∧
    ((∃ g, generate p .bytecode file = .ok g) ↔
      ((p.check checkFile).verdict = .ok () ∧ (p.check checkFile).inserted = 0) ∧
        ∀ l ∈ p.literals, l.2.admits l.1 = true) ∧
    ((p.check checkFile).verdict = .ok () →
      (∃ g, generate (p.check checkFile).tree .dc file = .ok g) ∧
      ((∀ l ∈ p.literals, l.2.admits l.1 = true) →
        ∃ g, generate (p.check checkFile).tree .bytecode file = .ok g)) := by
  rw [exists_generate_iff, exists_generate_iff, Program.check_unchanged_iff]
  refine ⟨and_iff_left (Target.holdsAll_dc _), Iff.rfl, fun h => ?_⟩
  obtain ⟨ha, hl⟩ := Program.accepted_tree h
  rw [exists_generate_iff, exists_generate_iff, hl]
  exact ⟨⟨ha, Target.holdsAll_dc _⟩, fun hp => ⟨ha, hp⟩⟩

end DeskCalc
