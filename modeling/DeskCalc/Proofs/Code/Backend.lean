import DeskCalc.Code.Generate
import DeskCalc.Proofs.Code.History
import DeskCalc.Proofs.Outcome

/-!
The walk for any backend. A backend is handed the steps of a program one after another, and what it
makes of them is its own affair, but it can refuse a literal. A driver is a generator that hands its
steps on to a backend, and that tells the history of its scopes. With a backend that refuses the
literals that a target does not hold, the driver takes the steps that the generator takes for the target
(`Drive.follows_expression`, `Drive.follows_statement`).
-/

namespace DeskCalc

/-- Whom the steps are for. It has a state, and a step makes another state of it; a literal comes with
its line and is taken or refused, which the backend decides by its state and which may change it. -/
structure Backend where
  State : Type
  take : Step → State → State
  literal : String → Ty → Nat → State → Except Cause Unit × State

/-- The backend refuses the literals that the target does not hold. -/
def Backend.Answers (b : Backend) (target : Target) : Prop :=
  ∀ text ty line state, (b.literal text ty line state).1 =
    if target.holds text ty then .ok () else .error (.invalidLiteral text ty.name)

/-- A generator with a backend for its steps, which alone says what becomes of a literal, and the
history of its scopes. -/
structure Driver (b : Backend) where
  generator : Generator
  state : b.State
  history : History

/-- Driving gives a value or a diagnostic, and the driver afterwards in either case. -/
abbrev Drive (b : Backend) := EStateM Diagnostic (Driver b)

def Driver.start (b : Backend) (state : b.State) (target : Target) (file : Option String) :
    Driver b :=
  ⟨.start target file, state, []⟩

namespace Drive

variable {b : Backend} {α β : Type}

/-! ### Steps -/

/-- What the generator does by itself. -/
def lift (x : Generate α) : Drive b α := fun d =>
  match x d.generator with
  | .ok a generator => .ok a { d with generator }
  | .error e generator => .error e { d with generator }

/-- Takes a step that cannot be refused. -/
def take (step : Step) : Drive b Unit := do
  lift (Generate.emit step)
  modify fun d => { d with state := b.take step d.state }

/-- Takes the step of a literal, unless the backend refuses it. -/
def literal (text : String) (ty : Ty) (line : Nat) : Drive b Unit := fun d =>
  match b.literal text ty line d.state with
  | (.ok (), state) => lift (Generate.emit (.literal text ty)) { d with state }
  | (.error cause, state) => .error ⟨cause, line, d.generator.file⟩ { d with state }

def enter : Drive b Unit :=
  modify fun d =>
    { d with
      generator := { d.generator with scopes := d.generator.scopes.enter }
      history := .entered :: d.history }

/-- Leaves the innermost scope, unless it is the only one, and tells whether it did. -/
def leave : Drive b Bool := fun d =>
  match d.generator.scopes.exit? with
  | none => .ok false d
  | some scopes =>
    .ok true
      { d with generator := { d.generator with scopes }, history := .left :: d.history }

/-- Declares a variable in the next slot, and tells which slot it was given. -/
def allocate (target : Identifier) (ty : Ty) : Drive b Nat := fun d =>
  match Generate.allocate target ty d.generator with
  | .ok slot generator =>
    .ok slot { d with generator, history := .allocated ⟨target.name, ty, slot⟩ :: d.history }
  | .error e generator => .error e { d with generator }

def expression : Expr → Drive b Ty
  | .number text ty line => do
    literal text ty line
    return ty
  | .symbol name line => do
    let (slot, ty) ← lift (Generate.resolve name line)
    take (.load slot ty)
    return ty
  | .binary left operator right line => do
    let lt ← expression left
    let rt ← expression right
    lift (Generate.same ("operands of `" ++ operator.sign ++ "`") lt rt line)
    take (.binary operator lt)
    return lt
  | .convert inner ty _ => do
    let received ← expression inner
    take (.convert received ty)
    return ty

/-- Takes the steps of an expression and puts its value into a slot. -/
def store (context : String) (slot : Nat) (ty : Ty) (value : Expr) (line : Nat) :
    Drive b Unit := do
  let received ← expression value
  lift (Generate.same context ty received line)
  take (.store slot ty)

def statement : Stmt → Drive b Unit
  | .declaration target ty none _ => do
    let _ ← allocate target ty
  | .declaration target ty (some value) line => do
    let slot ← allocate target ty
    store "declaration" slot ty value line
  | .assignment target value line => do
    let (slot, ty) ← lift (Generate.resolve target.name target.line)
    store "assignment" slot ty value line
  | .print target _ => do
    let (slot, ty) ← lift (Generate.resolve target.name target.line)
    take (.print slot ty)

end Drive

/-! ### Calls -/

inductive Call where
  | enter
  | leave
  | allocate (target : Identifier) (ty : Ty)
  | resolve (name : String) (line : Nat)
  | expression (e : Expr)
  | statement (s : Stmt)

def Call.drive {b : Backend} : Call → Drive b Unit
  | .enter => Drive.enter
  | .leave => do let _ ← Drive.leave
  | .allocate target ty => do let _ ← Drive.allocate target ty
  | .resolve name line => do let _ ← Drive.lift (Generate.resolve name line)
  | .expression e => do let _ ← Drive.expression e
  | .statement s => Drive.statement s

/-- The driver that a call leaves, be it answered or refused. -/
def Driver.after {b : Backend} (d : Driver b) (call : Call) : Driver b :=
  stateOf (call.drive d)

/-- The driver that calls leave, one after another. -/
def Driver.run {b : Backend} (d : Driver b) (calls : List Call) : Driver b :=
  calls.foldl Driver.after d

/-! ### The walk of the generator -/

namespace Generate

/-- The steps of an operation are those of its operands and then its own. -/
theorem expression_binary (left right : Expr) (operator : Operator) (line : Nat) :
    expression (.binary left operator right line) = (do
      let lt ← expression left
      let rt ← expression right
      same ("operands of `" ++ operator.sign ++ "`") lt rt line
      emit (.binary operator lt)
      return lt) := by
  funext g
  show _ = EStateM.bind (expression left) _ g
  simp only [expression, Expr.generate, EStateM.bind]
  cases (left.generate g.target g.scopes g.file).verdict with
  | error d => rfl
  | ok lt =>
    show _ = EStateM.bind (expression right) _ _
    simp only [expression, EStateM.bind]
    cases (right.generate g.target g.scopes g.file).verdict with
    | error d => simp only [List.append_assoc]
    | ok rt =>
      show _ = EStateM.bind (same _ lt rt line) _ _
      simp only [same, EStateM.bind]
      cases expectSame ("operands of `" ++ operator.sign ++ "`") lt rt line g.file with
      | error d => simp only [List.append_assoc]
      | ok u =>
        simp only [← List.append_assoc]
        rfl

theorem expression_convert (inner : Expr) (ty : Ty) (line : Nat) :
    expression (.convert inner ty line) = (do
      let received ← expression inner
      emit (.convert received ty)
      return ty) := by
  funext g
  show _ = EStateM.bind (expression inner) _ g
  simp only [expression, Expr.generate, EStateM.bind]
  cases (inner.generate g.target g.scopes g.file).verdict with
  | error d => rfl
  | ok received =>
    simp only [← List.append_assoc]
    rfl

theorem expression_symbol (name : String) (line : Nat) :
    expression (.symbol name line) = (do
      let found ← resolve name line
      emit (.load found.1 found.2)
      return found.2) := by
  funext g
  show _ = EStateM.bind (resolve name line) _ g
  simp only [expression, Expr.generate, resolve, EStateM.bind]
  cases g.scopes.resolve name line g.file with
  | error d => simp
  | ok found => rfl

end Generate

namespace Drive

variable {b : Backend} {α β : Type} {target : Target}

def generated :
    EStateM.Result Diagnostic (Driver b) α → EStateM.Result Diagnostic Generator α :=
  translated id id Driver.generator

/-- **The driver does for a target what the generator does.** -/
def Follows (target : Target) (x : Drive b α) (y : Generate α) : Prop :=
  ∀ d, d.generator.target = target →
    y d.generator = generated (x d) ∧ (stateOf (x d)).generator.target = target

theorem follows_pure (a : α) : Follows (b := b) target (pure a) (pure a) :=
  fun _ hd => ⟨rfl, hd⟩

theorem Follows.bind {x : Drive b α} {y : Generate α} {f : α → Drive b β} {h : α → Generate β}
    (hx : Follows target x y) (hf : ∀ a, Follows target (f a) (h a)) :
    Follows target (x >>= f) (y >>= h) := by
  intro d hd
  obtain ⟨hsame, htarget⟩ := hx d hd
  constructor
  · refine bind_translated hsame fun a d' hr => ?_
    rw [hr] at htarget
    exact (hf a d' htarget).1
  · exact stateOf_bind htarget fun a d' hd' => (hf a d' hd').2

theorem follows_take (step : Step) : Follows (b := b) target (take step) (Generate.emit step) :=
  fun _ hd => ⟨rfl, hd⟩

theorem follows_resolve (name : String) (line : Nat) :
    Follows (b := b) target (lift (Generate.resolve name line)) (Generate.resolve name line) := by
  intro d hd
  unfold lift Generate.resolve
  cases d.generator.scopes.resolve name line d.generator.file <;> exact ⟨rfl, hd⟩

theorem follows_same (context : String) (left right : Ty) (line : Nat) :
    Follows (b := b) target (lift (Generate.same context left right line))
      (Generate.same context left right line) := by
  intro d hd
  unfold lift Generate.same
  cases expectSame context left right line d.generator.file <;> exact ⟨rfl, hd⟩

theorem follows_allocate (v : Identifier) (ty : Ty) :
    Follows (b := b) target (allocate v ty) (Generate.allocate v ty) := by
  intro d hd
  unfold allocate Generate.allocate
  cases d.generator.scopes.declare v.name ⟨ty, some d.generator.slotsUsed⟩ v.line
    d.generator.file <;> exact ⟨rfl, hd⟩

/-- A literal is where the backend has a say. -/
theorem follows_number (hb : b.Answers target) (text : String) (ty : Ty) (line : Nat) :
    Follows target (expression (b := b) (.number text ty line))
      (Generate.expression (.number text ty line)) := by
  rintro d rfl
  have hanswer := hb text ty line d.state
  show _ = generated (EStateM.bind (literal text ty line) _ d) ∧
    (stateOf (EStateM.bind (literal text ty line) _ d)).generator.target = d.generator.target
  unfold EStateM.bind literal Generate.expression Expr.generate
  generalize b.literal text ty line d.state = answered at hanswer ⊢
  obtain ⟨answer, state⟩ := answered
  obtain rfl : answer = _ := hanswer
  cases d.generator.target.holds text ty with
  | true => exact ⟨rfl, rfl⟩
  | false => exact ⟨by simp [generated, translated], rfl⟩

/-- **The driver takes the steps of an expression that the generator takes.** -/
theorem follows_expression (hb : b.Answers target) (e : Expr) :
    Follows target (expression (b := b) e) (Generate.expression e) := by
  induction e with
  | number text ty line => exact follows_number hb text ty line
  | symbol name line =>
    rw [Generate.expression_symbol]
    refine (follows_resolve name line).bind fun found => ?_
    exact (follows_take _).bind fun _ => follows_pure found.2
  | binary left operator right line ihl ihr =>
    rw [Generate.expression_binary]
    refine ihl.bind fun lt => ihr.bind fun rt => ?_
    refine (follows_same _ lt rt line).bind fun _ => ?_
    exact (follows_take _).bind fun _ => follows_pure lt
  | convert inner ty line ih =>
    rw [Generate.expression_convert]
    exact ih.bind fun received => (follows_take _).bind fun _ => follows_pure ty

theorem follows_store (hb : b.Answers target) (context : String) (slot : Nat) (ty : Ty)
    (value : Expr) (line : Nat) :
    Follows target (store (b := b) context slot ty value line) (do
      let received ← Generate.expression value
      Generate.same context ty received line
      Generate.emit (.store slot ty)) :=
  (follows_expression hb value).bind fun received =>
    (follows_same context ty received line).bind fun _ => follows_take _

/-- **The driver takes the steps of a statement that the generator takes.** -/
theorem follows_statement (hb : b.Answers target) (s : Stmt) :
    Follows target (statement (b := b) s) (Generate.statement s) := by
  cases s with
  | declaration v ty value line =>
    cases value with
    | none => exact (follows_allocate v ty).bind fun _ => follows_pure ()
    | some value =>
      exact (follows_allocate v ty).bind fun slot =>
        follows_store hb "declaration" slot ty value line
  | assignment v value line =>
    exact (follows_resolve v.name v.line).bind fun found =>
      follows_store hb "assignment" found.1 found.2 value line
  | print v line =>
    exact (follows_resolve v.name v.line).bind fun found => follows_take _

end Drive

end DeskCalc
