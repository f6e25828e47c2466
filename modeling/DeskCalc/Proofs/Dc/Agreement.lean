import DeskCalc.Proofs.Dc.Calculator
import DeskCalc.Proofs.Machine.Meaning

/-!
The two targets on integers. Where every variable is an integer, the calculator comes as far as the
evaluation does, step by step: the place of a variable holds its value, places that were not given yet
read as zero, and the precision is the one that was asked for, except in the middle of a division. The
evaluation says what the machine prints; so the calculator prints the same. Main statement:
`targets_agree_on_integers`.
-/

namespace DeskCalc

/-! ### Expressions -/

namespace Expr

variable {ν : Type} {number : Int → ν} {command : String → Calculator ν → Calculator ν}
  {scopes : Scopes} {e : Expr} {steps : List Step} {ty : Ty} {values : String → Value}

open Calculator

/-- The literal of an integer is the number that its digits stand for, and is written as it is. -/
theorem literalValue?_digits {text : String} (h : Spelled [(text, .int)]) :
    ∃ n, literalValue? text .int = some (.int n) ∧
      n.toInt = Number.digitsValue text.toList ∧ dcLiteral text = text := by
  obtain ⟨hadm, hdigits⟩ := h _ (List.mem_singleton_self _)
  have hhead := Dc.head?_spelled hdigits
  have hdigits : Number.isDigits text.toList = true := hdigits
  have hread := Number.readWord?_digits hdigits
  obtain ⟨n, hn⟩ : ∃ n, Number.readWord? text = some n := Option.isSome_iff_exists.mp hadm
  have hvalue : n.toInt = Number.digitsValue text.toList := by
    rw [hread] at hn
    exact Number.toInt_of_word? hn
  refine ⟨n, ?_, hvalue, Dc.dcLiteral_eq hhead⟩
  rw [literalValue?, hn]
  rfl

/-- **The calculator pushes the value of an expression.** -/
theorem Emits.run_eq (hd : Documented number command) {precision : Nat}
    (h : e.Emits .dc scopes steps ty) (hty : ty = .int) (hw : e.OnlyWidens)
    (hl : Spelled e.literals) {c : Calculator ν} (hp : c.precision = precision)
    (hc : ∀ name slot, scopes.lookup name = some ⟨.int, some slot⟩ →
      ∃ n : Int64, values name = .int n ∧ c.read (.ofSlot slot) = number n.toInt)
    {v : Value} (hv : e.evaluate values = .ok v) :
    ∃ n : Int64, v = .int n ∧
      run command (steps.flatMap (Step.words precision)) c = c.push (number n.toInt) := by
  induction h generalizing c v with
  | @number text ty line hh =>
    subst hty
    obtain ⟨n, hn, hvalue, htext⟩ := literalValue?_digits hl
    rw [evaluate, hn] at hv
    cases hv
    refine ⟨n, rfl, ?_⟩
    show command (dcLiteral text) c = _
    rw [htext, hvalue]
    have hdigits : Number.isDigits text.toList = true := (hl _ (List.mem_singleton_self _)).2
    have hpush := hd.numeral c _ hdigits
    rwa [String.ofList_toList] at hpush
  | @symbol name line slot ty hs =>
    subst hty
    cases hv
    obtain ⟨n, hn, hread⟩ := hc name slot hs
    refine ⟨n, hn, ?_⟩
    show run command ((Storage.ofSlot slot).loadWords ++ []) c = _
    rw [List.append_nil, hd.run_load, hread]
  | @binary left right operator line ls rs ty _ _ ihl ihr =>
    subst hty
    obtain ⟨hwl, hwr⟩ := onlyWidens_binary.mp hw
    obtain ⟨hll, hlr⟩ := spelled_append.mp hl
    obtain ⟨l, hvl, r, hvr, hop⟩ := evaluate_binary_eq_ok_iff.mp hv
    obtain ⟨i, rfl, hil⟩ := ihl rfl hwl hll hp hc hvl
    obtain ⟨j, rfl, hir⟩ := ihr rfl hwr hlr (c := c.push (number i.toInt)) hp hc hvr
    obtain ⟨hr, n, rfl, hn⟩ := Operator.exact_of_onWords hop
    have hr' : ¬(operator = .div ∧ j.toInt = 0) :=
      fun hz => hr ⟨hz.1, Int64.toInt_inj.mp (hz.2.trans Int64.toInt_zero.symm)⟩
    refine ⟨n, rfl, ?_⟩
    rw [List.flatMap_append, List.flatMap_append, run_append, run_append, hil, hir]
    show run command ((Step.binary operator .int).words precision ++ []) _ = _
    rw [List.append_nil, hd.run_binary hp operator hr', hn]
  | @convert inner target line steps received _ ih =>
    obtain ⟨rfl, -⟩ := onlyWidens_convert.mp hw
    cases hty

end Expr

/-! ### What the calculator holds -/

namespace Calculator

variable {ν : Type} {number : Int → ν} {command : String → Calculator ν → Calculator ν}
  {c : Calculator ν} {g : Generator} {precision : Nat} {ev : Evaluation} {types : List Ty}

/-- The calculator has come as far as the evaluation: it holds the values of the integers in scope,
has zeros at the places that the generator has not given yet, and has printed the same. -/
structure Agrees (number : Int → ν) (c : Calculator ν) (g : Generator) (precision : Nat)
    (ev : Evaluation) : Prop where
  values : ∀ name slot, g.scopes.lookup name = some ⟨.int, some slot⟩ →
    ∃ n : Int64, ev.values name = .int n ∧ c.read (.ofSlot slot) = number n.toInt
  unset : ∀ slot, g.slotsUsed ≤ slot → c.read (.ofSlot slot) = number 0
  printed : c.printed = ev.printed.map Value.written
  precision : c.precision = precision

theorem agrees_start (number : Int → ν) (file : Option String) (precision : Nat) :
    Agrees number { start (number 0) with precision } ((Generator.start .dc file).took [.preamble])
      precision .start where
  values name slot hl := by cases hl
  unset slot _ := by cases Storage.ofSlot slot <;> rfl
  printed := rfl
  precision := rfl

theorem Agrees.took (h : c.Agrees number g precision ev) (steps : List Step) :
    c.Agrees number (g.took steps) precision ev :=
  ⟨h.values, h.unset, h.printed, h.precision⟩

/-- A place that was never given reads as zero. -/
theorem Agrees.allocated (h : c.Agrees number g precision ev) (name : String) :
    c.Agrees number (g.allocated name .int) precision (ev.set name (.zero .int)) where
  values x slot hl := by
    rw [Generator.allocated, Scopes.lookup_add] at hl
    show ∃ n : Int64, Function.update ev.values name (.zero .int) x = .int n ∧ _
    by_cases hx : x = name
    · rw [if_pos hx] at hl
      cases hl
      refine ⟨0, ?_, h.unset _ (Nat.le_refl _)⟩
      rw [hx, Function.update_self]
      rfl
    · rw [if_neg hx] at hl
      rw [Function.update_of_ne hx]
      exact h.values x slot hl
  unset slot hs := h.unset slot (Nat.le_of_succ_le hs)
  printed := h.printed
  precision := h.precision

/-- Setting the place of a variable changes this variable and no other one. -/
theorem Agrees.write (h : c.Agrees number g precision ev) (hf : g.Fits types) {name : String}
    {slot : Nat} (hl : g.scopes.lookup name = some ⟨.int, some slot⟩) (n : Int64) :
    (c.write (number n.toInt) (.ofSlot slot)).Agrees number g precision (ev.set name (.int n)) := by
  refine ⟨fun x i hx => ?_, fun i hi => ?_, (write_printed ..).trans h.printed,
    (write_precision ..).trans h.precision⟩
  · show ∃ m : Int64, Function.update ev.values name (.int n) x = .int m ∧ _
    rw [read_write_scope hf hl c _ hx, Function.update_apply]
    by_cases hn : x = name
    · rw [if_pos hn, if_pos hn]
      exact ⟨n, rfl, rfl⟩
    · rw [if_neg hn, if_neg hn]
      exact h.values x i hx
  · rw [read_write_unused hf hl c _ hi]
    exact h.unset i hi

/-- Printing changes no variable. -/
theorem Agrees.print (h : c.Agrees number g precision ev) {name : String} {n : Int64}
    (hn : ev.values name = .int n) :
    Agrees number { c.setRegister 'i' (number n.toInt) with
      printed := c.printed ++ [toString n.toInt] } g precision
      { ev with printed := ev.printed ++ [ev.values name] } where
  values x i hx := by
    obtain ⟨m, hm, hr⟩ := h.values x i hx
    exact ⟨m, hm, (read_setRegister_i c _ i).trans hr⟩
  unset i hi := (read_setRegister_i c _ i).trans (h.unset i hi)
  printed := by
    rw [List.map_append, hn, h.printed]
    rfl
  precision := h.precision

end Calculator

/-! ### Statements -/

namespace Stmt

variable {ν : Type} {number : Int → ν} {command : String → Calculator ν → Calculator ν}
  {c : Calculator ν} {g g' : Generator} {precision : Nat} {ev ev' : Evaluation} {types : List Ty}
  {s : Stmt} {body : List Stmt} {steps : List Step}

open Calculator

theorem run_store (hd : Documented number command) {value : Expr} {name : String} {slot : Nat}
    (hf : g.Fits types) (hl : g.scopes.lookup name = some ⟨.int, some slot⟩)
    (he : value.Emits .dc g.scopes steps .int) (hw : value.OnlyWidens) (hs : Spelled value.literals)
    (hc : c.Agrees number g precision ev)
    (hev : (value.evaluate ev.values).map (fun v => ev.set name (v.as .int)) = .ok ev') :
    (run command ((steps ++ [Step.store slot .int]).flatMap (Step.words precision)) c).Agrees
      number g precision ev' ∧
    (run command ((steps ++ [Step.store slot .int]).flatMap (Step.words precision)) c).stack =
      c.stack := by
  obtain ⟨v, hv, rfl⟩ := Except.map_eq_ok_iff.mp hev
  obtain ⟨n, rfl, hrun⟩ := he.run_eq hd rfl hw hs hc.precision hc.values hv
  have hstore : run command ((steps ++ [Step.store slot .int]).flatMap (Step.words precision)) c =
      c.write (number n.toInt) (.ofSlot slot) := by
    rw [List.flatMap_append, run_append, hrun]
    show run command ((Storage.ofSlot slot).storeWords ++ []) _ = _
    rw [List.append_nil, hd.run_store]
  rw [hstore]
  exact ⟨hc.write hf hl n, write_stack ..⟩

/-- **The calculator does what a statement on integers does.** -/
theorem Emits.run_eq (hd : Documented number command) (h : s.Emits g g') (ht : g.target = .dc)
    (hw : s.OnlyWidens) (hs : Spelled s.literals) (hf : g.Fits types)
    (hi : ∀ ty ∈ types ++ s.slotTypes, ty = .int) (hc : c.Agrees number g precision ev)
    (hev : s.evaluate ev = .ok ev') (hsteps : g'.steps = g.steps ++ steps) :
    (run command (steps.flatMap (Step.words precision)) c).Agrees number g' precision ev' ∧
      (run command (steps.flatMap (Step.words precision)) c).stack = c.stack := by
  have hint : ∀ {name ty slot}, g.scopes.lookup name = some ⟨ty, some slot⟩ → ty = .int := by
    intro name ty slot hl
    exact hi ty (List.mem_append_left _ (List.mem_of_getElem? (hf.scopes.getElem?_slot hl)))
  cases h with
  | @declaration target ty line hn =>
    obtain rfl : steps = [] := by simpa [Generator.allocated] using hsteps
    obtain rfl : ty = .int := hi ty (by simp [slotTypes])
    cases hev
    exact ⟨hc.allocated target.name, rfl⟩
  | @initialised target ty line value taken hn he =>
    obtain rfl : steps = taken ++ [.store g.slotsUsed ty] := (List.append_cancel_left hsteps).symm
    obtain rfl : ty = .int := hi ty (by simp [slotTypes])
    have hl := g.lookup_allocated target.name .int
    have hf' := hf.allocated target.name .int
    have hc₀ := hc.allocated target.name
    have he' : value.Emits .dc (g.allocated target.name .int).scopes taken .int := ht ▸ he
    obtain ⟨hc', hstack⟩ := run_store hd hf' hl he' (hw _ rfl) hs hc₀ hev
    exact ⟨hc'.took _, hstack⟩
  | @assignment target line value taken slot ty hl he =>
    obtain rfl : steps = taken ++ [.store slot ty] := (List.append_cancel_left hsteps).symm
    obtain rfl := hint hl
    obtain ⟨n, hn, -⟩ := hc.values _ _ hl
    have hev' : (value.evaluate ev.values).map (fun v => ev.set target.name (v.as .int)) = .ok ev' := by
      rw [← hev, evaluate, hn]
      rfl
    have he' : value.Emits .dc g.scopes taken .int := ht ▸ he
    obtain ⟨hc', hstack⟩ := run_store hd hf hl he' (hw _ rfl) hs hc hev'
    exact ⟨hc'.took _, hstack⟩
  | @print target line slot ty hl =>
    obtain rfl : steps = [.print slot ty] := (List.append_cancel_left hsteps).symm
    obtain rfl := hint hl
    obtain ⟨n, hn, hread⟩ := hc.values _ _ hl
    cases hev
    have hprint : run command ([Step.print slot .int].flatMap (Step.words precision)) c =
        { c.setRegister 'i' (number n.toInt) with printed := c.printed ++ [toString n.toInt] } := by
      show run command ((Step.print slot .int).words precision ++ []) c = _
      rw [List.append_nil, hd.run_print hread]
    rw [hprint]
    exact ⟨(hc.print hn).took _, rfl⟩

/-- **The calculator does what statements on integers do.** -/
theorem AllEmit.run_eq (hd : Documented number command) (h : AllEmit g body g')
    (ht : g.target = .dc) (hw : ∀ s ∈ body, s.OnlyWidens)
    (hs : Spelled (body.flatMap Stmt.literals)) (hf : g.Fits types)
    (hi : ∀ ty ∈ types ++ body.flatMap slotTypes, ty = .int) (hc : c.Agrees number g precision ev)
    (hev : evaluateAll body ev = .ok ev') (hsteps : g'.steps = g.steps ++ steps) :
    (run command (steps.flatMap (Step.words precision)) c).Agrees number g' precision ev' ∧
      (run command (steps.flatMap (Step.words precision)) c).stack = c.stack := by
  induction h generalizing types c ev steps with
  | nil =>
    obtain rfl : steps = [] := by simpa using hsteps
    cases hev
    exact ⟨hc, rfl⟩
  | @cons g g₁ g' s body hs₁ hrest ih =>
    rw [List.forall_mem_cons] at hw
    rw [List.flatMap_cons, spelled_append] at hs
    rw [List.flatMap_cons, ← List.append_assoc] at hi
    obtain ⟨ev₁, hev₁, hevrest⟩ := Except.bind_eq_ok_iff.mp hev
    obtain ⟨first, more, rfl, hfirst, hmore⟩ := hs₁.split_steps hrest hsteps
    have hints : ∀ ty ∈ types ++ s.slotTypes, ty = .int :=
      fun ty hty => hi ty (List.mem_append_left _ hty)
    obtain ⟨hc₁, hstack₁⟩ := hs₁.run_eq hd ht hw.1 hs.1 hf hints hc hev₁ hfirst
    obtain ⟨hc', hstack'⟩ :=
      ih (hs₁.target_eq.trans ht) hw.2 hs.2 (hs₁.fits hf) hi hc₁ hevrest hmore
    rw [List.flatMap_append, run_append]
    exact ⟨hc', hstack'.trans hstack₁⟩

end Stmt

/-! ### Programs -/

theorem Stmt.AllAccepted.slotTypes_eq {scopes scopes' : Scopes} {body body' : List Stmt} {n : Nat}
    (h : AllAccepted scopes body body' n scopes') :
    body'.flatMap slotTypes = body.flatMap slotTypes := by
  induction h with
  | nil => rfl
  | cons hs _ ih =>
    rw [List.flatMap_cons, List.flatMap_cons, ih]
    cases hs <;> rfl

def Program.DeclaresInts (p : Program) : Prop :=
  ∀ ty ∈ p.body.flatMap Stmt.slotTypes, ty = .int

/-- The values that a run of the code printed are those of the tree. -/
theorem evaluate_of_run {q : Program} {file : Option String} {b : Bytecode} {vs : List Value}
    {m m' : Machine} (hb : q.bytecode file = .ok b) (hw : ∀ s ∈ q.body, s.OnlyWidens)
    (hrun : Machine.run b m = .ok vs m') : q.evaluate = .ok vs := by
  obtain ⟨g, hg, rfl⟩ := Except.map_eq_ok_iff.mp hb
  rw [← verdict_run_bytecode hg hw m]
  exact Machine.verdict_eq_ok_iff.mpr ⟨m', hrun⟩

/-- The text for the calculator is made of the words of the steps. -/
theorem words_dcText {q : Program} {file : Option String} {g : Generator}
    (hg : generate q .dc file = .ok g) (hs : Spelled q.literals) (precision : Nat) :
    Dc.words (dcText precision g.steps).toList = g.steps.flatMap (Step.words precision) := by
  refine (Dc.reads_dcText precision fun text ty hl => ?_).words_eq
  rcases (generate_eq_ok_iff.mp hg).literal_mem hl with hl | hl
  · cases List.mem_singleton.mp hl
  · exact Dc.isWord_dcLiteral (hs _ hl).2

/-- **The targets agree on integers.** If every declaration of a source text is one of an integer and
its code runs to the end on the machine, then the text for the calculator prints the same values in
decimal, in the same order and whatever the precision, and leaves nothing on the stack. -/
theorem targets_agree_on_integers {ν : Type} {number : Int → ν}
    {command : String → Calculator ν → Calculator ν} (hd : Calculator.Documented number command)
    {source : String} {file : Option String} {p q : Program} {b : Bytecode} {vs : List Value}
    {m : Machine} (hp : parse source file = .ok p) (hi : p.DeclaresInts)
    (hq : checkSource source file = .ok q) (hb : q.bytecode file = .ok b)
    (hrun : Machine.run b .fresh = .ok vs m) (precision : Nat) :
    ∃ text, compile source file ⟨.dc, precision⟩ = .ok text ∧
      (Calculator.execute command text (.start (number 0))).printed = vs.map Value.written ∧
      (Calculator.execute command text (.start (number 0))).stack = [] := by
  obtain ⟨p', n, scopes, hp', ha⟩ := accepted_of_checkSource hq
  obtain rfl : p = p' := Except.ok.inj (hp.symm.trans hp')
  obtain ⟨g, hg⟩ := exists_generate_of_accepted hp ha .dc file
  have hw := ha.onlyWidens (onlyWidens_of_parse hp)
  have hs := spelled_of_accepted hp ha
  obtain ⟨ev, hev, rfl⟩ := Except.map_eq_ok_iff.mp (evaluate_of_run hb hw hrun)
  have hemit := generate_eq_ok_iff.mp hg
  refine ⟨dcText precision g.steps, ?_, ?_⟩
  · rw [compile, hq]
    show (generate q .dc file).map _ = _
    rw [hg]
    show Except.ok (g.output precision) = _
    rw [Generator.output, hemit.target_eq]
    rfl
  · obtain ⟨steps, hsteps⟩ := hemit.steps_le
    have htypes : ∀ ty ∈ [] ++ q.body.flatMap Stmt.slotTypes, ty = .int := by
      rw [List.nil_append, ha.slotTypes_eq]
      exact hi
    -- the preamble asks for the precision, and the statements start from there
    have hexecute : Calculator.execute command (dcText precision g.steps) (.start (number 0)) =
        Calculator.run command (steps.flatMap (Step.words precision))
          { Calculator.start (number 0) with precision } := by
      rw [Calculator.execute, words_dcText hg hs, ← hsteps, List.flatMap_append,
        Calculator.run_append, ← hd.run_precision]
      rfl
    obtain ⟨hc, hstack⟩ := hemit.run_eq hd rfl hw hs ((Generator.fits_start ..).took _)
      htypes (Calculator.agrees_start number file precision) hev hsteps.symm
    rw [hexecute]
    exact ⟨hc.printed, hstack⟩

/-! ### A calculator of integers -/

namespace Calculator

/-- A calculator that has only integers and cuts off every quotient toward zero. What has no operands
or no meaning does nothing. -/
def onIntegers (w : String) (c : Calculator Int) : Calculator Int :=
  if Number.isDigits w.toList then c.push (Number.digitsValue w.toList)
  else match w.toList, c.stack with
    | ['l', r], _ => c.push (c.registers r)
    | ['s', r], x :: rest => { c with stack := rest }.setRegister r x
    | [';', r], index :: rest => { c with stack := rest }.push (c.arrays r index.toNat)
    | [':', r], index :: x :: rest => { c with stack := rest }.setElement r index.toNat x
    | ['+'], r :: l :: rest => { c with stack := rest }.push (l + r)
    | ['-'], r :: l :: rest => { c with stack := rest }.push (l - r)
    | ['*'], r :: l :: rest => { c with stack := rest }.push (l * r)
    | ['/'], r :: l :: rest => if r = 0 then c else { c with stack := rest }.push (l.tdiv r)
    | ['k'], k :: rest => { c with stack := rest, precision := k.toNat }
    | ['p'], x :: _ => { c with printed := c.printed ++ [toString x] }
    | _, _ => c

theorem documented_onIntegers : Documented id onIntegers where
  numeral c ds h := by
    rw [onIntegers, String.toList_ofList, if_pos h]
    rfl
  load c r _ := by
    have hw : ("l" ++ r.toString).toList = ['l', r] := Dc.toList_named 'l' r
    rw [onIntegers, hw]
    rfl
  store c r x _ := by
    have hw : ("s" ++ r.toString).toList = ['s', r] := Dc.toList_named 's' r
    rw [onIntegers, hw]
    rfl
  fetch c r index _ := by
    have hw : (";" ++ r.toString).toList = [';', r] := Dc.toList_named ';' r
    rw [onIntegers, hw]
    rfl
  put c r index x _ := by
    have hw : (":" ++ r.toString).toList = [':', r] := Dc.toList_named ':' r
    rw [onIntegers, hw]
    rfl
  exact c operator l r h := by
    cases operator with
    | add => rfl
    | sub => rfl
    | mul => rfl
    | div => exact absurd rfl h
  quotient c l r _ hr := by
    have hw : "/".toList = ['/'] := rfl
    rw [onIntegers, hw]
    show (if r = 0 then _ else _) = _
    rw [if_neg hr]
    rfl
  precision c k := rfl
  print c n := rfl

end Calculator

/-- Quotients of a negative number in the middle of an expression, and a variable that is read before
it is set. -/
def integerSource : String :=
  "int a = 7; int b = 9 - (1 - a) * 5 / (a - 3) + b; a = (0 - b) / 3; print b; print a;"

theorem targets_agree_on_integers_quotients :
    ∃ (p q : Program) (b : Bytecode) (vs : List Value) (m : Machine) (text : String),
      parse integerSource none = .ok p ∧ p.DeclaresInts ∧ checkSource integerSource none = .ok q ∧
      q.bytecode none = .ok b ∧ Machine.run b .fresh = .ok vs m ∧
      compile integerSource none ⟨.dc, 20⟩ = .ok text ∧
      (Calculator.execute Calculator.onIntegers text (.start 0)).printed = vs.map Value.written ∧
      (Calculator.execute Calculator.onIntegers text (.start 0)).stack = [] := by
  have hruns : ((checkSource integerSource none).toOption.any fun q =>
      (q.body.flatMap Stmt.slotTypes).all (· = .int) && (q.bytecode none).toOption.any fun b =>
        (Machine.verdict (Machine.run b .fresh)).isOk) = true := by decide +kernel
  obtain ⟨q, hq, hruns⟩ := Except.exists_of_any hruns
  rw [Bool.and_eq_true, List.all_eq_true] at hruns
  obtain ⟨hints, hruns⟩ := hruns
  obtain ⟨b, hb, hruns⟩ := Except.exists_of_any hruns
  obtain ⟨p, n, scopes, hp, ha⟩ := accepted_of_checkSource hq
  have hi : p.DeclaresInts := by
    rw [Program.DeclaresInts, ← ha.slotTypes_eq]
    exact fun ty hty => of_decide_eq_true (hints ty hty)
  obtain ⟨vs, hvs⟩ := Except.exists_of_isOk hruns
  obtain ⟨m, hrun⟩ := Machine.verdict_eq_ok_iff.mp hvs
  obtain ⟨text, htext, hprinted, hstack⟩ := targets_agree_on_integers
    Calculator.documented_onIntegers hp hi hq hb hrun 20
  exact ⟨p, q, b, vs, m, text, hp, hi, hq, hb, hrun, htext, hprinted, hstack⟩

end DeskCalc
