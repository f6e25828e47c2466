import DeskCalc.Files.Compile
import DeskCalc.Proofs.Files.Volume

/-!
An attempt at compiling a file ends in one of several ways, by the step that failed
(`compileFile_run_iff`). Main statement: on every lawful file system the output is there afterwards, and
nothing else is new, or everything is as it was before (`compileFile_all_or_nothing`).
-/

namespace DeskCalc.Files

variable {World Handle Place : Type} [DecidableEq Place] [FileAccess (StateM World) Handle]

/-! ### How an attempt ends -/

/-- **How compiling a file ends**, by the step that failed. -/
inductive Attempt (input output : String) (options : Options) (w : World) :
    Except Failure String → World → Prop
  | unread {reason w₁} :
      (FileAccess.read (m := StateM World) input).run w = (.error reason, w₁) →
      Attempt input output options w (.error (.access ⟨.read, input, reason⟩)) w₁
  | rejected {source d w₁} :
      (FileAccess.read (m := StateM World) input).run w = (.ok source, w₁) →
      compile source (displayName input) options = .error d →
      Attempt input output options w (.error (.diagnostic d)) w₁
  | unwritten {source text e w₁ w₂} :
      (FileAccess.read (m := StateM World) input).run w = (.ok source, w₁) →
      compile source (displayName input) options = .ok text →
      Puts output text w₁ (.error e) w₂ →
      Attempt input output options w (.error (.access e)) w₂
  | written {source text w₁ w₂} :
      (FileAccess.read (m := StateM World) input).run w = (.ok source, w₁) →
      compile source (displayName input) options = .ok text →
      Puts output text w₁ (.ok ()) w₂ →
      Attempt input output options w (.ok text) w₂

variable {input output : String} {options : Options} {w w' : World} {r : Except Failure String}

theorem readSource_run {w₁ : World} {r : Except Reason String}
    (h : (FileAccess.read (m := StateM World) input).run w = (r, w₁)) :
    (readSource (m := StateM World) input).run w = (r.mapError (⟨.read, input, ·⟩), w₁) := by
  unfold readSource
  rw [run_bind_of h]
  rfl

theorem attempt_of_run
    (h : (compileFile (m := StateM World) input output options).run w = (r, w')) :
    Attempt input output options w r w' := by
  unfold compileFile at h
  rcases hread : (FileAccess.read (m := StateM World) input).run w with ⟨found, w₁⟩
  rw [run_bind_of (readSource_run hread)] at h
  cases found with
  | error reason =>
    cases h
    exact .unread hread
  | ok source =>
    simp only [Except.mapError] at h
    cases hcompile : compile source (displayName input) options with
    | error d =>
      rw [hcompile] at h
      cases h
      exact .rejected hread hcompile
    | ok text =>
      rw [hcompile] at h
      rcases hput : (writeAtomically (m := StateM World) output text).run w₁ with ⟨put, w₂⟩
      simp only at h
      rw [run_bind_of hput] at h
      cases put with
      | error e =>
        cases h
        exact .unwritten hread hcompile (puts_of_run hput)
      | ok u =>
        cases h
        exact .written hread hcompile (puts_of_run hput)

theorem Attempt.run_eq (h : Attempt input output options w r w') :
    (compileFile (m := StateM World) input output options).run w = (r, w') := by
  unfold compileFile
  cases h with
  | unread hread =>
    rw [run_bind_of (readSource_run hread)]
    rfl
  | rejected hread hcompile =>
    rw [run_bind_of (readSource_run hread)]
    simp only [Except.mapError, hcompile]
    rfl
  | unwritten hread hcompile hput =>
    rw [run_bind_of (readSource_run hread)]
    simp only [Except.mapError, hcompile]
    rw [run_bind_of hput.run_eq]
    rfl
  | written hread hcompile hput =>
    rw [run_bind_of (readSource_run hread)]
    simp only [Except.mapError, hcompile]
    rw [run_bind_of hput.run_eq]
    rfl

/-- **An attempt is what compiling a file does.** -/
theorem compileFile_run_iff :
    (compileFile (m := StateM World) input output options).run w = (r, w') ↔
      Attempt input output options w r w' :=
  ⟨attempt_of_run, Attempt.run_eq⟩

/-! ### What an attempt leaves -/

namespace Attempt

variable {v : View World Handle Place}

/-- **A failed attempt leaves every place as it was.** -/
theorem holds_of_error {failure : Failure} (hv : v.Lawful)
    (h : Attempt input output options w (.error failure) w') : v.holds w' = v.holds w := by
  cases h with
  | unread hread => exact hv.read_eq hread
  | rejected hread => exact hv.read_eq hread
  | unwritten hread _ hput => exact (hv.holds_of_error hput).trans (hv.read_eq hread)

/-- The diagnostic is the one of the source text that was read. -/
theorem diagnostic_iff (h : Attempt input output options w r w') (d : Diagnostic) :
    r = .error (.diagnostic d) ↔ ∃ source w₁,
      (FileAccess.read (m := StateM World) input).run w = (.ok source, w₁) ∧
        compile source (displayName input) options = .error d := by
  constructor
  · rintro rfl
    cases h with
    | rejected hread hcompile => exact ⟨_, _, hread, hcompile⟩
  · rintro ⟨source, w₁, hread, hcompile⟩
    have hrejected : Attempt input output options w (.error (.diagnostic d)) w₁ :=
      .rejected hread hcompile
    have hrun := hrejected.run_eq
    rw [h.run_eq] at hrun
    exact (Prod.mk.inj hrun).1

/-- **A successful attempt leaves the output at the end of its path**, and every other place as it
was. -/
theorem holds_of_ok {text : String} (hv : v.Lawful)
    (h : Attempt input output options w (.ok text) w') :
    ∃ source place, v.at? w input = some (.file source.toUTF8) ∧
      compile source (displayName input) options = .ok text ∧ v.leads w' output = some place ∧
      v.holds w' = Function.update (v.holds w) place (some (.file text.toUTF8)) := by
  cases h with
  | @written source text w₁ _ hread hcompile hput =>
    obtain ⟨found, hfound, hsource⟩ := hv.read_ok hread
    obtain ⟨place, hplace, hholds⟩ := hv.holds_of_ok hput
    rw [hv.read_eq hread] at hholds
    refine ⟨source, place, ?_, hcompile, hplace, hholds⟩
    rw [View.at?, hfound]
    exact hsource

end Attempt

/-- **Compiling a file is all or nothing.** On a lawful file system, whichever step fails, every place
holds what it held before and every path leads to what it led to: the output is what it was, no other
file has changed and no temporary file is left. The failure is a diagnostic exactly if the source
was read and has that diagnostic. If nothing fails, the text that is returned is the output for the
text of the input under its display name, it is what the output path now leads to, and every other
place holds what it held before; and nothing fails if every step succeeds. -/
theorem compileFile_all_or_nothing {v : View World Handle Place} (hv : v.Lawful)
    (h : (compileFile (m := StateM World) input output options).run w = (r, w')) :
    (∀ failure, r = .error failure →
      (∀ place, v.holds w' place = v.holds w place) ∧ ∀ path, v.at? w' path = v.at? w path) ∧
    (∀ d, r = .error (.diagnostic d) ↔ ∃ source w₁,
      (FileAccess.read (m := StateM World) input).run w = (.ok source, w₁) ∧
        compile source (displayName input) options = .error d) ∧
    (∀ text, r = .ok text → ∃ source place,
      v.at? w input = some (.file source.toUTF8) ∧
      compile source (displayName input) options = .ok text ∧
      v.leads w' output = some place ∧ v.at? w' output = some (.file text.toUTF8) ∧
      ∀ other, other ≠ place → v.holds w' other = v.holds w other) ∧
    ∀ source text file w₁ w₂ w₃ w₄,
      (FileAccess.read (m := StateM World) input).run w = (.ok source, w₁) →
      compile source (displayName input) options = .ok text →
      (FileAccess.createTemporary (m := StateM World) (directory output)).run w₁ = (.ok file, w₂) →
      (FileAccess.write (m := StateM World) file text).run w₂ = (.ok (), w₃) →
      (FileAccess.rename (m := StateM World) file output).run w₃ = (.ok (), w₄) →
      r = .ok text ∧ w' = w₄ := by
  have hattempt := attempt_of_run h
  refine ⟨?_, hattempt.diagnostic_iff, ?_, ?_⟩
  · rintro failure rfl
    have hholds := hattempt.holds_of_error hv
    refine ⟨congrFun hholds, fun path => ?_⟩
    rw [View.at?, View.at?, hv.leads_eq hholds, hholds]
  · rintro text rfl
    obtain ⟨source, place, hsource, hcompile, hplace, hholds⟩ := hattempt.holds_of_ok hv
    refine ⟨source, place, hsource, hcompile, hplace, ?_, fun other hother => ?_⟩
    · rw [View.at?, hplace, hholds]
      exact Function.update_self ..
    · rw [hholds, Function.update_of_ne hother]
  · intro source text file w₁ w₂ w₃ w₄ hread hcompile hcreate hwrite hrename
    have hrun := (Attempt.written hread hcompile (.put hcreate hwrite hrename)).run_eq
    rw [h] at hrun
    exact Prod.mk.inj hrun

/-- A volume with a program and an output from before, on which one kind of step may be refused. -/
def keptVolume (refused : Option AccessStep) : Volume where
  entries := [(⟨false, ["in.dc"]⟩, .file "int a = 7; print a;".toUTF8),
    (⟨false, ["out.dc"]⟩, .file "previous\n".toUTF8)]
  refuses step _ := if refused = some step then some .busy else none

def keptAttempt (refused : Option AccessStep) : Except Failure String × Volume :=
  (compileFile (m := StateM Volume) "in.dc" "out.dc" ⟨.dc, 20⟩).run (keptVolume refused)

/-- When the last step is refused the output from before is still there, and otherwise the new one has
taken its place. -/
theorem compileFile_all_or_nothing_renaming :
    (keptAttempt (some .rename)).1 = .error (.access ⟨.rename, "out.dc", .busy⟩) ∧
      (∀ place, Volume.view.holds (keptAttempt (some .rename)).2 place =
        Volume.view.holds (keptVolume (some .rename)) place) ∧
      (keptAttempt none).1 = .ok "20 k\n7 sa\nla\np\nsi\n" ∧
      Volume.view.at? (keptAttempt none).2 "out.dc" =
        some (.file "20 k\n7 sa\nla\np\nsi\n".toUTF8) := by
  have hrun : ∀ refused, (compileFile (m := StateM Volume) "in.dc" "out.dc" ⟨.dc, 20⟩).run
      (keptVolume refused) = ((keptAttempt refused).1, (keptAttempt refused).2) := fun _ => rfl
  have hrefused : (keptAttempt (some .rename)).1 = .error (.access ⟨.rename, "out.dc", .busy⟩) :=
    Except.eq_error_of_failure? (by decide +kernel)
  have hdone : (keptAttempt none).1 = .ok "20 k\n7 sa\nla\np\nsi\n" :=
    Except.eq_ok_of_toOption (by decide +kernel)
  obtain ⟨hfailed, -, -, -⟩ := compileFile_all_or_nothing Volume.lawful (hrun (some .rename))
  obtain ⟨-, -, hwritten, -⟩ := compileFile_all_or_nothing Volume.lawful (hrun none)
  obtain ⟨_, _, _, _, _, houtput, _⟩ := hwritten _ hdone
  exact ⟨hrefused, (hfailed _ hrefused).1, hdone, houtput⟩

end DeskCalc.Files
