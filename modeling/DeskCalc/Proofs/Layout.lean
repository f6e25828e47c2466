import DeskCalc.Compile
import DeskCalc.Proofs.Code.Relabel
import DeskCalc.Proofs.Parse.Lines
import DeskCalc.Proofs.Token.Cut
import DeskCalc.Proofs.Typing.Relabel

/-!
Source texts in other layouts. Blanks only set tokens apart and put them on lines, and a line only ends
up in trees and diagnostics. So two source texts with the same tokens are parsed, checked and compiled
alike: to the same tree up to lines, to the same output, or to the same diagnostic up to its line. Main
statement: `layout_keeps_results`.
-/

namespace DeskCalc

/-! ### Results up to lines -/

def Program.lineless (p : Program) : Program :=
  p.relabel (.ofLines fun _ => 0)

/-- Results that are one up to lines: values that `f` does not tell apart, or diagnostics with the same
cause about the same file. -/
def SameUpToLines {α β : Type} (f : α → β) : Except Diagnostic α → Except Diagnostic α → Prop
  | .ok a, .ok b => f a = f b
  | .error d, .error e => d.cause = e.cause ∧ d.file = e.file
  | _, _ => False

section

variable {α β : Type} {f : α → α} {h : β → β} {x y : Except Diagnostic α}

theorem SameUpToLines.of_forgotten
    (hxy : (x.map f).mapError (Diagnostic.relabel (.ofLines fun _ => 0)) =
      (y.map f).mapError (Diagnostic.relabel (.ofLines fun _ => 0))) : SameUpToLines f x y := by
  cases x with
  | ok a =>
    cases y with
    | ok b => exact Except.ok.inj hxy
    | error e => cases hxy
  | error d =>
    cases y with
    | ok b => cases hxy
    | error e =>
      have hde := Except.error.inj hxy
      have hcause := congrArg Diagnostic.cause hde
      have hfile := congrArg Diagnostic.file hde
      simp only [Diagnostic.relabel, Cause.relabel_ofLines] at hcause hfile
      exact ⟨hcause, hfile⟩

/-- What does the same with values that are not told apart does the same after results that are one up
to lines. -/
theorem SameUpToLines.bind {k : α → Except Diagnostic β} (hxy : SameUpToLines f x y)
    (hk : ∀ a b, f a = f b → SameUpToLines h (k a) (k b)) :
    SameUpToLines h (x >>= k) (y >>= k) := by
  cases x with
  | ok a =>
    cases y with
    | ok b => exact hk a b hxy
    | error e => exact hxy.elim
  | error d =>
    cases y with
    | ok b => exact hxy.elim
    | error e => exact hxy

end

/-! ### Stages -/

section

variable {p q : Program}

theorem Program.check_sameUpToLines (hpq : p.lineless = q.lineless) (file : Option String) :
    SameUpToLines Program.lineless ((p.check file).verdict.map fun () => (p.check file).tree)
      ((q.check file).verdict.map fun () => (q.check file).tree) := by
  have hforgotten : ∀ r : Program, r.lineless.check file =
      (r.check file).relabel (.ofLines fun _ => 0) Program.lineless :=
    fun r => r.check_relabel (.ofLines fun _ => 0) (fun _ _ => Set.mem_univ _) file
  have hresult : ∀ r : Program,
      (r.lineless.check file).verdict.map (fun () => (r.lineless.check file).tree) =
        (((r.check file).verdict.map fun () => (r.check file).tree).map Program.lineless).mapError
          (Diagnostic.relabel (.ofLines fun _ => 0)) := by
    intro r
    rw [hforgotten r, Checked.relabel]
    cases (r.check file).verdict <;> rfl
  refine .of_forgotten ?_
  rw [← hresult p, ← hresult q, hpq]

theorem Program.compile_sameUpToLines (hpq : p.lineless = q.lineless) (file : Option String)
    (options : Options) : SameUpToLines id (p.compile file options) (q.compile file options) := by
  have hforgotten : ∀ r : Program, r.lineless.compile file options =
      (r.compile file options).mapError (Diagnostic.relabel (.ofLines fun _ => 0)) :=
    fun r => r.compile_relabel (.ofLines fun _ => 0) (fun _ _ => Set.mem_univ _) file options
  refine .of_forgotten ?_
  rw [Except.map_id, id_eq, id_eq, ← hforgotten p, ← hforgotten q, hpq]

end

/-! ### Source texts -/

/-- Two source texts with the same tokens up to lines give the same feed with its lines forgotten. -/
theorem Feed.reline_eq_of_tokens {f₁ f₂ : Feed} {ts₁ ts₂ : List Token} (h₁ : f₁.tokens = .ok ts₁)
    (h₂ : f₂.tokens = .ok ts₂)
    (hsame : ts₁.map (fun t => (t.kind, t.text?)) = ts₂.map fun t => (t.kind, t.text?)) :
    f₁.reline (fun _ => 0) = f₂.reline fun _ => 0 := by
  obtain ⟨body₁, hr₁, rfl⟩ := Feed.tokens_eq_ok_iff.mp h₁
  obtain ⟨body₂, hr₂, rfl⟩ := Feed.tokens_eq_ok_iff.mp h₂
  rw [List.map_append, List.map_append] at hsame
  obtain ⟨hbody, -⟩ := List.append_inj' hsame rfl
  have hforgotten : ∀ ts : List Token,
      (ts.map Except.ok).map (Token.relineResult fun _ => 0) =
        (ts.map fun t => (t.kind, t.text?)).map fun (kind, text?) => .ok ⟨kind, 0, text?⟩ := by
    intro ts
    rw [List.map_map, List.map_map]
    rfl
  unfold Feed.reline
  rw [hr₁, hr₂, hforgotten, hforgotten, hbody]

/-- **Layout does not matter.** Two source texts whose tokens have the same kinds and texts, on
whatever lines, are parsed, checked and compiled alike: to trees that are equal up to lines and to the
same output for each target and precision, or to diagnostics with the same cause about the same
file. -/
theorem layout_keeps_results {source₁ source₂ : String} {file : Option String}
    {ts₁ ts₂ : List Token} (h₁ : tokenize source₁ file = .ok ts₁)
    (h₂ : tokenize source₂ file = .ok ts₂)
    (hsame : ts₁.map (fun t => (t.kind, t.text?)) = ts₂.map fun t => (t.kind, t.text?)) :
    SameUpToLines Program.lineless (parse source₁ file) (parse source₂ file) ∧
    SameUpToLines Program.lineless (checkSource source₁ file) (checkSource source₂ file) ∧
    ∀ options,
      SameUpToLines id (compile source₁ file options) (compile source₂ file options) := by
  have hfeed := Feed.reline_eq_of_tokens h₁ h₂ hsame
  have hforgotten : ∀ source,
      Parse.runOn Parse.program ((Scanner.ofSource source file).feed.reline fun _ => 0) file =
        ((parse source file).map Program.lineless).mapError
          (Diagnostic.relabel (.ofLines fun _ => 0)) :=
    fun source => Parse.runOn_program_reline (Scanner.ofSource source file).feed file
  have hparse : SameUpToLines Program.lineless (parse source₁ file) (parse source₂ file) := by
    refine .of_forgotten ?_
    rw [← hforgotten source₁, ← hforgotten source₂, hfeed]
  have hcheck : SameUpToLines Program.lineless (checkSource source₁ file)
      (checkSource source₂ file) :=
    hparse.bind fun p q hpq => Program.check_sameUpToLines hpq file
  exact ⟨hparse, hcheck, fun options =>
    hcheck.bind fun p q hpq => Program.compile_sameUpToLines hpq file options⟩

def onOneLine : String :=
  "int a = 7; float b = a*0.5; a = b;"

/-- The same tokens on five lines. -/
def onFiveLines : String :=
  "int a=7;\nfloat b =\n\ta * 0.5;\n\na = b ;"

/-- The trees differ, but in their lines alone, and the checker refuses the same assignment on another
line. -/
theorem layout_keeps_results_spread :
    ∃ (ts₁ ts₂ : List Token) (p q : Program),
      tokenize onOneLine none = .ok ts₁ ∧ tokenize onFiveLines none = .ok ts₂ ∧
      ts₁.map (fun t => (t.kind, t.text?)) = ts₂.map (fun t => (t.kind, t.text?)) ∧
      parse onOneLine none = .ok p ∧ parse onFiveLines none = .ok q ∧
      p ≠ q ∧ p.lineless = q.lineless ∧
      checkSource onOneLine none =
        .error ⟨.narrowingConversion "a" "int" "float", 1, "shell"⟩ ∧
      ∃ line, checkSource onFiveLines none =
        .error ⟨.narrowingConversion "a" "int" "float", line, "shell"⟩ := by
  obtain ⟨ts₁, h₁⟩ := Except.exists_of_isOk (x := tokenize onOneLine none) (by decide +kernel)
  obtain ⟨ts₂, h₂⟩ := Except.exists_of_isOk (x := tokenize onFiveLines none) (by decide +kernel)
  have hsame : (tokenize onOneLine none).toOption.map (·.map fun t => (t.kind, t.text?)) =
      (tokenize onFiveLines none).toOption.map (·.map fun t => (t.kind, t.text?)) := by
    decide +kernel
  rw [h₁, h₂] at hsame
  have hsame := Option.some.inj hsame
  obtain ⟨p, hp⟩ := Except.exists_of_isOk (x := parse onOneLine none) (by decide +kernel)
  obtain ⟨q, hq⟩ := Except.exists_of_isOk (x := parse onFiveLines none) (by decide +kernel)
  have hapart : (parse onOneLine none).toOption ≠ (parse onFiveLines none).toOption := by
    decide +kernel
  rw [hp, hq] at hapart
  have hrefused : checkSource onOneLine none =
      .error ⟨.narrowingConversion "a" "int" "float", 1, "shell"⟩ :=
    Except.eq_error_of_failure? (by decide +kernel)
  obtain ⟨hparse, hcheck, -⟩ := layout_keeps_results h₁ h₂ hsame
  rw [hp, hq] at hparse
  rw [hrefused] at hcheck
  refine ⟨ts₁, ts₂, p, q, h₁, h₂, hsame, hp, hq, fun h => hapart (congrArg some h), hparse,
    hrefused, ?_⟩
  cases hc : checkSource onFiveLines none with
  | ok r =>
    rw [hc] at hcheck
    exact hcheck.elim
  | error d =>
    rw [hc] at hcheck
    obtain ⟨cause, line, file⟩ := d
    obtain ⟨rfl, rfl⟩ := hcheck
    exact ⟨line, rfl⟩

end DeskCalc
