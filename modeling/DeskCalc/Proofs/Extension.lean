import DeskCalc.Proofs.Dc.Discipline
import DeskCalc.Proofs.Parse.Front

/-!
What becomes of a source text when more text follows it. Every stage only adds: the statements that
were checked, the steps that were taken for them and the values that they print stand in front of
what follows. Main statement: compiling and running a text give a beginning of what compiling and
running the longer text give (`compile_append`).
-/

namespace DeskCalc

/-! ### One result -/

namespace Stmt

variable {scopes scopes₁ scopes₂ : Scopes} {body body₁ body₂ : List Stmt} {m n : Nat}
  {g g₁ g₂ : Generator}

/-- Statements are accepted in one way. -/
theorem AllAccepted.unique (h₁ : AllAccepted scopes body body₁ m scopes₁)
    (h₂ : AllAccepted scopes body body₂ n scopes₂) : body₁ = body₂ := by
  obtain ⟨hfirst, -⟩ := (Checker.statements_eq_ok_iff (c := ⟨scopes, defaultFile, 0⟩)).mpr h₁
  obtain ⟨hsecond, -⟩ := (Checker.statements_eq_ok_iff (c := ⟨scopes, defaultFile, 0⟩)).mpr h₂
  rw [hfirst] at hsecond
  exact (Checked.mk.inj hsecond).1

/-- Statements leave one generator. -/
theorem AllEmit.unique (h₁ : AllEmit g body g₁) (h₂ : AllEmit g body g₂) : g₁ = g₂ := by
  have hfirst := (Generate.statements_eq_ok_iff (u := ())).mpr h₁
  rw [(Generate.statements_eq_ok_iff (u := ())).mpr h₂] at hfirst
  exact (EStateM.Result.ok.inj hfirst).2.symm

/-! ### More statements -/

variable {more : List Stmt} {ev ev' : Evaluation}

/-- **Statements are checked as they are without those behind them.** -/
theorem AllAccepted.isPrefix (h₁ : AllAccepted scopes body body₁ m scopes₁)
    (h₂ : AllAccepted scopes (body ++ more) body₂ n scopes₂) : body₁ <+: body₂ := by
  obtain ⟨_, _, htake⟩ := h₂.take body.length
  rw [List.take_left] at htake
  rw [h₁.unique htake]
  exact List.take_prefix _ _

/-- **Statements leave a generator that those behind them begin with.** -/
theorem AllEmit.behind (h₁ : AllEmit g body g₁) (h₂ : AllEmit g (body ++ more) g₂) :
    AllEmit g₁ more g₂ := by
  obtain ⟨g', hfront, hbehind⟩ := h₂.take body.length
  rw [List.take_left] at hfront
  rw [List.drop_left] at hbehind
  rw [h₁.unique hfront]
  exact hbehind

/-- What was printed stays printed. -/
theorem printed_isPrefix {s : Stmt} (h : s.evaluate ev = .ok ev') : ev.printed <+: ev'.printed := by
  cases s with
  | declaration target ty value line =>
    cases value with
    | none =>
      cases h
      exact List.prefix_rfl
    | some value =>
      obtain ⟨v, -, rfl⟩ := Except.map_eq_ok_iff.mp h
      exact List.prefix_rfl
  | assignment target value line =>
    obtain ⟨v, -, rfl⟩ := Except.map_eq_ok_iff.mp h
    exact List.prefix_rfl
  | print target line =>
    cases h
    exact List.prefix_append _ _

theorem printed_isPrefix_all (h : evaluateAll body ev = .ok ev') : ev.printed <+: ev'.printed := by
  induction body generalizing ev with
  | nil =>
    cases h
    exact List.prefix_rfl
  | cons s body ih =>
    rw [evaluateAll, List.foldlM_cons] at h
    obtain ⟨ev₁, hs, hbody⟩ := Except.bind_eq_ok_iff.mp h
    exact (printed_isPrefix hs).trans (ih hbody)

end Stmt

/-- **A program prints first what its first statements print.** -/
theorem Program.printed_isPrefix {p q : Program} {printed' : List Value} (hbody : p.body <+: q.body)
    (h : q.evaluate = .ok printed') : ∃ printed, p.evaluate = .ok printed ∧ printed <+: printed' := by
  obtain ⟨more, hmore⟩ := hbody
  obtain ⟨ev', hev', rfl⟩ := Except.map_eq_ok_iff.mp h
  rw [Stmt.evaluateAll, ← hmore, List.foldlM_append] at hev'
  obtain ⟨ev, hev, hrest⟩ := Except.bind_eq_ok_iff.mp hev'
  refine ⟨ev.printed, ?_, Stmt.printed_isPrefix_all hrest⟩
  rw [Program.evaluate, Stmt.evaluateAll, hev]
  rfl

/-! ### More steps -/

theorem dcText_append (precision : Nat) (steps more : List Step) :
    dcText precision (steps ++ more) = dcText precision steps ++ dcText precision more := by
  rw [dcText, List.map_append, String.join_append]
  rfl

/-- More statements add to the steps and to the slots. -/
theorem generate_isPrefix {p q : Program} {target : Target} {file : Option String} {g g' : Generator}
    (hbody : p.body <+: q.body) (hg : generate p target file = .ok g)
    (hg' : generate q target file = .ok g') :
    g.steps <+: g'.steps ∧ g.slotsUsed ≤ g'.slotsUsed := by
  obtain ⟨more, hmore⟩ := hbody
  have hall := generate_eq_ok_iff.mp hg'
  rw [← hmore] at hall
  have hbehind := (generate_eq_ok_iff.mp hg).behind hall
  exact ⟨hbehind.steps_le, hbehind.slotsUsed_le⟩

theorem Generator.instructions_isPrefix {g g' : Generator} (h : g.steps <+: g'.steps) :
    g.bytecode.instructions <+: g'.bytecode.instructions := by
  obtain ⟨more, hmore⟩ := h
  rw [instructions_bytecode, instructions_bytecode, ← hmore, instructions_append]
  exact List.prefix_append _ _

/-! ### Source texts -/

theorem compile_of_checkSource {source : String} {file : Option String} {q : Program}
    (h : checkSource source file = .ok q) (options : Options) :
    compile source file options = q.compile file options := by
  rw [compile, h]
  rfl

theorem compile_bytecode_of_generate {q : Program} {file : Option String} {g : Generator}
    (hg : generate q .bytecode file = .ok g) (precision : Nat) :
    q.compile file ⟨.bytecode, precision⟩ = .ok g.bytecode.written := by
  rw [compile_of_generate hg, Generator.output, (generate_eq_ok_iff.mp hg).target_eq]
  rfl

theorem line_of_checkSource {source : String} {file : Option String} {p q : Program}
    (hp : parse source file = .ok p) (h : checkSource source file = .ok q) : q.line = p.line := by
  obtain ⟨p', hp', hq⟩ := Except.bind_eq_ok_iff.mp h
  rw [hp] at hp'
  cases hp'
  obtain ⟨⟨⟩, -, rfl⟩ := Except.map_eq_ok_iff.mp hq
  rfl

/-- **The checked tree of a text is the front of the checked tree of a longer text**, lines
included. -/
theorem checkSource_append {front back : String} {file : Option String} {q q' : Program}
    (h : checkSource front file = .ok q) (h' : checkSource (front ++ back) file = .ok q') :
    q.body <+: q'.body ∧ (q.body ≠ [] → q'.line = q.line) := by
  obtain ⟨p, n, scopes, hp, ha⟩ := accepted_of_checkSource h
  obtain ⟨p', n', scopes', hp', ha'⟩ := accepted_of_checkSource h'
  obtain ⟨⟨more, hmore⟩, hline⟩ := Parse.parse_append hp hp'
  rw [hmore] at ha'
  refine ⟨ha.isPrefix ha', fun hne => ?_⟩
  have hread : p.body ≠ [] := by
    intro hnil
    rw [hnil] at ha
    cases hq : q.body with
    | nil => exact hne hq
    | cons s body =>
      rw [hq] at ha
      cases ha
  rw [line_of_checkSource hp' h', line_of_checkSource hp h, hline hread]

/-- A run that comes to its end, of the code of a program, prints first what the code of its first
statements prints. -/
theorem run_isPrefix {p q : Program} {file : Option String} {g g' : Generator}
    (hbody : p.body <+: q.body) (hg : generate p .bytecode file = .ok g)
    (hg' : generate q .bytecode file = .ok g') (hw : ∀ s ∈ q.body, s.OnlyWidens)
    {m' n' : Machine} {printed' : List Value}
    (h : Machine.run g'.bytecode m' = .ok printed' n') (m : Machine) :
    ∃ printed n, Machine.run g.bytecode m = .ok printed n ∧ printed <+: printed' := by
  have hall : q.evaluate = .ok printed' := by
    rw [← verdict_run_bytecode hg' hw m', h]
    rfl
  obtain ⟨printed, hprinted, hfront⟩ := Program.printed_isPrefix hbody hall
  have hwp : ∀ s ∈ p.body, s.OnlyWidens := fun s hs => hw s (hbody.subset hs)
  rw [← verdict_run_bytecode hg hwp m] at hprinted
  obtain ⟨n, hrun⟩ := Machine.verdict_eq_ok_iff.mp hprinted
  exact ⟨printed, n, hrun, hfront⟩

/-- **More text behind a text only adds.** Let a text be accepted, and let it be accepted with more
text right behind it. Then its checked statements are the first ones of the longer text, with the same
lines, and the program begins on the same line if it has a statement; its text for the calculator
begins the longer one's, for every precision; its instructions come first, and it has no more
slots; and if the code of the longer text runs to its end, so does its own code, and what it prints
comes first. This is about longer texts with fewer than `2 ^ 32` declarations, for which a slot counter of 32
bits does not start again (`Generator`). -/
theorem compile_append {front back : String} {file : Option String} {options : Options}
    {out out' : String} (h : compile front file options = .ok out)
    (h' : compile (front ++ back) file options = .ok out') :
    ∃ (q q' : Program) (b b' : Bytecode),
      checkSource front file = .ok q ∧ checkSource (front ++ back) file = .ok q' ∧
      q.body <+: q'.body ∧ (q.body ≠ [] → q'.line = q.line) ∧
      (∀ precision, ∃ text more, compile front file ⟨.dc, precision⟩ = .ok text ∧
        compile (front ++ back) file ⟨.dc, precision⟩ = .ok (text ++ more)) ∧
      q.bytecode file = .ok b ∧ q'.bytecode file = .ok b' ∧
      (∀ precision, compile front file ⟨.bytecode, precision⟩ = .ok b.written ∧
        compile (front ++ back) file ⟨.bytecode, precision⟩ = .ok b'.written) ∧
      b.instructions <+: b'.instructions ∧ b.slots ≤ b'.slots ∧
      ∀ m m' n' printed', Machine.run b' m' = .ok printed' n' →
        ∃ printed n, Machine.run b m = .ok printed n ∧ printed <+: printed' := by
  obtain ⟨q, hq, -⟩ := Except.bind_eq_ok_iff.mp h
  obtain ⟨q', hq', -⟩ := Except.bind_eq_ok_iff.mp h'
  obtain ⟨hbody, hline⟩ := checkSource_append hq hq'
  obtain ⟨p, n, scopes, hp, ha⟩ := accepted_of_checkSource hq
  obtain ⟨p', n', scopes', hp', ha'⟩ := accepted_of_checkSource hq'
  have hw : ∀ s ∈ q'.body, s.OnlyWidens := ha'.onlyWidens (onlyWidens_of_parse hp')
  obtain ⟨d, hd⟩ := exists_generate_of_accepted hp ha .dc file
  obtain ⟨d', hd'⟩ := exists_generate_of_accepted hp' ha' .dc file
  obtain ⟨g, hg⟩ := exists_generate_of_accepted hp ha .bytecode file
  obtain ⟨g', hg'⟩ := exists_generate_of_accepted hp' ha' .bytecode file
  obtain ⟨hsteps, hslots⟩ := generate_isPrefix hbody hg hg'
  refine ⟨q, q', g.bytecode, g'.bytecode, hq, hq', hbody, hline, fun precision => ?_, ?_, ?_,
    fun precision => ⟨?_, ?_⟩, Generator.instructions_isPrefix hsteps, hslots,
    fun m m' n' printed' hrun => run_isPrefix hbody hg hg' hw hrun m⟩
  · obtain ⟨more, hmore⟩ := (generate_isPrefix hbody hd hd').1
    refine ⟨dcText precision d.steps, dcText precision more, ?_, ?_⟩
    · rw [compile_of_checkSource hq, compile_dc_of_generate hd]
    · rw [compile_of_checkSource hq', compile_dc_of_generate hd', ← hmore, dcText_append]
  · rw [Program.bytecode, hg]
    rfl
  · rw [Program.bytecode, hg']
    rfl
  · rw [compile_of_checkSource hq, compile_bytecode_of_generate hg]
  · rw [compile_of_checkSource hq', compile_bytecode_of_generate hg']

/-- A text that ends in a statement and one that begins with a statement, with nothing between them. -/
theorem compile_append_adjacent :
    ∃ (out out' : String) (q q' : Program) (b b' : Bytecode),
      compile "int a = 7; print a;" none ⟨.dc, 20⟩ = .ok out ∧
      compile ("int a = 7; print a;" ++ "float b = a / 2.0; print b;") none ⟨.dc, 20⟩ = .ok out' ∧
      q.body.length = 2 ∧ q'.body.length = 4 ∧ q.body <+: q'.body ∧ q'.line = q.line ∧
      q.bytecode none = .ok b ∧ q'.bytecode none = .ok b' ∧
      b.instructions <+: b'.instructions ∧ b.slots ≤ b'.slots ∧ out.toList <+: out'.toList := by
  obtain ⟨out, hout⟩ := Except.exists_of_isOk
    (x := compile "int a = 7; print a;" none ⟨.dc, 20⟩) (by decide +kernel)
  obtain ⟨out', hout'⟩ := Except.exists_of_isOk
    (x := compile ("int a = 7; print a;" ++ "float b = a / 2.0; print b;") none ⟨.dc, 20⟩)
    (by decide +kernel)
  obtain ⟨q, q', b, b', hq, hq', hbody, hline, hdc, hb, hb', -, hcode, hslots, -⟩ :=
    compile_append hout hout'
  have hlength : ((checkSource "int a = 7; print a;" none).toOption.map (·.body.length)) = some 2 := by
    decide +kernel
  have hlength' : ((checkSource ("int a = 7; print a;" ++ "float b = a / 2.0; print b;")
      none).toOption.map (·.body.length)) = some 4 := by
    decide +kernel
  rw [hq] at hlength
  rw [hq'] at hlength'
  have htwo : q.body.length = 2 := Option.some.inj hlength
  have hne : q.body ≠ [] := by
    intro hnil
    rw [hnil] at htwo
    cases htwo
  obtain ⟨text, more, htext, hmore⟩ := hdc 20
  rw [hout] at htext
  rw [hout'] at hmore
  cases htext
  cases hmore
  refine ⟨out, _, q, q', b, b', hout, hout', htwo, Option.some.inj hlength', hbody, hline hne, hb,
    hb', hcode, hslots, ?_⟩
  rw [String.toList_append]
  exact List.prefix_append _ _

/-- A program without statements has only the line on which its text ends, and what is put behind it
may begin further down. -/
theorem line_of_blank_front :
    ∃ (out out' : String) (q q' : Program),
      compile "" none ⟨.dc, 20⟩ = .ok out ∧
      compile ("" ++ "\nint a;") none ⟨.dc, 20⟩ = .ok out' ∧
      checkSource "" none = .ok q ∧ checkSource ("" ++ "\nint a;") none = .ok q' ∧
      q.line = 1 ∧ q'.line = 2 ∧ ¬∃ more, q' = { q with body := q.body ++ more } := by
  obtain ⟨out, hout⟩ := Except.exists_of_isOk (x := compile "" none ⟨.dc, 20⟩) (by decide +kernel)
  obtain ⟨out', hout'⟩ := Except.exists_of_isOk
    (x := compile ("" ++ "\nint a;") none ⟨.dc, 20⟩) (by decide +kernel)
  have hq : checkSource "" none = .ok ⟨[], 1⟩ := Except.eq_ok_of_toOption (by decide +kernel)
  have hq' : checkSource ("" ++ "\nint a;") none =
      .ok ⟨[.declaration ⟨"a", 2⟩ .int none 2], 2⟩ := Except.eq_ok_of_toOption (by decide +kernel)
  refine ⟨out, out', _, _, hout, hout', hq, hq', rfl, rfl, ?_⟩
  rintro ⟨more, hmore⟩
  cases congrArg Program.line hmore

end DeskCalc
