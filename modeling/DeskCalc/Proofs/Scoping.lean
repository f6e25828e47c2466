import DeskCalc.Proofs.Code.History
import Mathlib.Data.List.Induction
import Mathlib.Data.Nat.Find

/-!
Scopes by what was asked of them. A session keeps a record of all requests with their answers, the
latest first; how many scopes lie inside the one that was innermost at some time, and whether that one
is still open, is counted in the record. Main statement: whatever was asked before, a name stands for
its latest declaration in a scope that is still open, and every other answer follows from the record in
the same way (`scoping_follows_history`).
-/

namespace DeskCalc

namespace Scopes

/-! ### Requests and answers -/

inductive Request where
  | enter
  | leave
  | declare (name : String) (symbol : Symbol) (line : Nat) (file : String)
  | lookup (name : String)
  | fetch (name : String) (line : Nat) (file : String)

inductive Answer where
  | entered
  | left (moved : Bool)
  | declared (verdict : Except Diagnostic Unit)
  | found (symbol? : Option Symbol)
  | fetched (verdict : Except Diagnostic Symbol)

structure Exchange where
  request : Request
  answer : Answer

/-- The answer to a request, and the scopes after it. -/
def serve (s : Scopes) : Request → Answer × Scopes
  | .enter => (.entered, s.enter)
  | .leave =>
    match s.exit? with
    | some s' => (.left true, s')
    | none => (.left false, s)
  | .declare name symbol line file =>
    match s.declare name symbol line file with
    | .ok s' => (.declared (.ok ()), s')
    | .error d => (.declared (.error d), s)
  | .lookup name => (.found (s.lookup name), s)
  | .fetch name line file => (.fetched (s.fetch name line file), s)

/-- Scopes, and all that was asked of them since they were new, the latest first. -/
structure Session where
  scopes : Scopes
  record : List Exchange

namespace Session

def start : Session :=
  ⟨.start, []⟩

def serve (t : Session) (r : Request) : Session :=
  ⟨(t.scopes.serve r).2, ⟨r, (t.scopes.serve r).1⟩ :: t.record⟩

def serveAll (t : Session) (requests : List Request) : Session :=
  requests.foldl serve t

end Session

/-! ### What a record says -/

def Exchange.Declares (e : Exchange) (name : String) (symbol : Symbol) : Prop :=
  ∃ line file, e = ⟨.declare name symbol line file, .declared (.ok ())⟩

/-- How many scopes are open inside a scope after the exchange, when there were so many before it;
`none` if the exchange leaves the scope itself. -/
def Exchange.nesting (around : Nat) : Exchange → Option Nat
  | ⟨.enter, _⟩ => some (around + 1)
  | ⟨.leave, .left true⟩ =>
    match around with
    | 0 => none
    | around + 1 => some around
  | _ => some around

/-- How many scopes are open inside the one that was innermost before these exchanges; `none` if it
was left. -/
def nesting : List Exchange → Option Nat
  | [] => some 0
  | e :: earlier => (nesting earlier).bind e.nesting

def Exchange.enters : Exchange → Bool
  | ⟨.enter, _⟩ => true
  | _ => false

def Exchange.leaves : Exchange → Bool
  | ⟨.leave, .left true⟩ => true
  | _ => false

/-- So many exchanges ago the name was declared in a scope that is still open, and that lies so many
scopes around the innermost one. -/
def OpenAt (record : List Exchange) (ago around : Nat) (name : String) (symbol : Symbol) : Prop :=
  (∃ e, record[ago]? = some e ∧ e.Declares name symbol) ∧ nesting (record.take ago) = some around

/-- The name was declared in the scope that lies so many scopes around the innermost one. -/
def Open (record : List Exchange) (around : Nat) (name : String) (symbol : Symbol) : Prop :=
  ∃ ago, OpenAt record ago around name symbol

/-- The latest declaration of the name in a scope that is still open is one of the symbol. -/
def Latest (record : List Exchange) (name : String) (symbol : Symbol) : Prop :=
  ∃ ago around, OpenAt record ago around name symbol ∧
    ∀ later < ago, ∀ around' symbol', ¬OpenAt record later around' name symbol'

/-- The exchange leaves all scopes as they are. -/
structure Exchange.Idle (e : Exchange) : Prop where
  nesting : ∀ around, e.nesting around = some around
  not_declares : ∀ name symbol, ¬e.Declares name symbol
  not_enters : e.enters = false
  not_leaves : e.leaves = false

/-- What the scopes are after an exchange. -/
inductive Moves (s : Scopes) : Exchange → Scopes → Prop
  | entered : Moves s ⟨.enter, .entered⟩ s.enter
  | left : s.outer ≠ [] → Moves s ⟨.leave, .left true⟩ s.leave
  | declared {name symbol line file} : s.inner.lookup name = none →
      Moves s ⟨.declare name symbol line file, .declared (.ok ())⟩ (s.add name symbol)
  | idle {e} : e.Idle → Moves s e s

variable {s s' : Scopes} {e : Exchange} {record late early : List Exchange} {name file : String}
variable {symbol symbol' : Symbol} {line ago ago' around around' : Nat} {t : Session}

/-! ### Counting scopes -/

/-- A scope that lies further out has the same scopes come and go inside it. -/
theorem Exchange.nesting_add (h : e.nesting around = some around') (more : Nat) :
    e.nesting (more + around) = some (more + around') := by
  unfold Exchange.nesting at h
  split at h
  · cases h
    rfl
  · cases around with
    | zero => cases h
    | succ n =>
      cases h
      rfl
  · rename_i henter hleave
    cases h
    unfold Exchange.nesting
    split
    · exact (henter _ rfl).elim
    · exact (hleave rfl).elim
    · rfl

theorem nesting_append (h : nesting late = some around) :
    nesting (late ++ early) = (nesting early).map (· + around) := by
  induction late generalizing around with
  | nil =>
    cases h
    simp
  | cons e late ih =>
    obtain ⟨before, hlate, he⟩ := Option.bind_eq_some_iff.mp h
    rw [List.cons_append, nesting, ih hlate]
    cases nesting early with
    | none => rfl
    | some further => exact e.nesting_add he further

/-- **What was declared later is not further out**, as long as both scopes are open. -/
theorem OpenAt.around_le {name' : String} (h : OpenAt record ago around name symbol)
    (h' : OpenAt record ago' around' name' symbol') (hle : ago ≤ ago') : around ≤ around' := by
  have hparts : record.take ago' = record.take ago ++ (record.take ago').drop ago := by
    conv_lhs => rw [← List.take_append_drop ago (record.take ago')]
    rw [List.take_take, Nat.min_eq_left hle]
  have hopen := h'.2
  rw [hparts, nesting_append h.2, Option.map_eq_some_iff] at hopen
  obtain ⟨between, -, rfl⟩ := hopen
  exact Nat.le_add_left around between

/-- What is open after an exchange was declared by it, or was open before. -/
theorem open_cons_iff :
    Open (e :: record) around name symbol ↔ (around = 0 ∧ e.Declares name symbol) ∨
      ∃ before, Open record before name symbol ∧ e.nesting before = some around := by
  constructor
  · rintro ⟨ago, ⟨e', he, hdeclares⟩, hnesting⟩
    cases ago with
    | zero =>
      cases he
      cases hnesting
      exact .inl ⟨rfl, hdeclares⟩
    | succ ago =>
      obtain ⟨before, hbefore, hafter⟩ := Option.bind_eq_some_iff.mp hnesting
      exact .inr ⟨before, ⟨ago, ⟨e', he, hdeclares⟩, hbefore⟩, hafter⟩
  · rintro (⟨rfl, hdeclares⟩ | ⟨before, ⟨ago, ⟨e', he, hdeclares⟩, hbefore⟩, hafter⟩)
    · exact ⟨0, ⟨e, rfl, hdeclares⟩, rfl⟩
    · exact ⟨ago + 1, ⟨e', he, hdeclares⟩, Option.bind_eq_some_iff.mpr ⟨before, hbefore, hafter⟩⟩

/-! ### What an exchange does -/

theorem serve_leave (h : s.outer ≠ []) : s.serve .leave = (.left true, s.leave) := by
  obtain ⟨inner, outer⟩ := s
  cases outer with
  | nil => exact absurd rfl h
  | cons scope outer => rfl

theorem serve_leave_outermost (h : s.outer = []) : s.serve .leave = (.left false, s) := by
  obtain ⟨inner, outer⟩ := s
  cases h
  rfl

theorem serve_declare (h : s.inner.lookup name = none) :
    s.serve (.declare name symbol line file) = (.declared (.ok ()), s.add name symbol) := by
  have hok : s.declare name symbol line file = .ok (s.add name symbol) :=
    declare_eq_ok_iff.mpr ⟨h, rfl⟩
  simp [serve, hok]

theorem serve_declare_refused {d : Diagnostic} (h : s.declare name symbol line file = .error d) :
    s.serve (.declare name symbol line file) = (.declared (.error d), s) := by
  simp [serve, h]

/-- **Scopes are entered, left or added to, or stay as they are.** -/
theorem moves_serve (s : Scopes) (r : Request) : s.Moves ⟨r, (s.serve r).1⟩ (s.serve r).2 := by
  cases r with
  | enter => exact .entered
  | leave =>
    by_cases h : s.outer = []
    · rw [serve_leave_outermost h]
      exact .idle ⟨fun _ => rfl, by simp [Exchange.Declares], rfl, rfl⟩
    · rw [serve_leave h]
      exact .left h
  | declare name symbol line file =>
    cases h : s.declare name symbol line file with
    | ok s' =>
      obtain ⟨hname, rfl⟩ := declare_eq_ok_iff.mp h
      rw [serve_declare hname]
      exact .declared hname
    | error d =>
      rw [serve_declare_refused h]
      exact .idle ⟨fun _ => rfl, by simp [Exchange.Declares], rfl, rfl⟩
  | lookup name => exact .idle ⟨fun _ => rfl, by simp [Exchange.Declares], rfl, rfl⟩
  | fetch name line file => exact .idle ⟨fun _ => rfl, by simp [Exchange.Declares], rfl, rfl⟩

theorem depth_eq_one_iff : s.depth = 1 ↔ s.serve .leave = (.left false, s) := by
  obtain ⟨inner, outer⟩ := s
  cases outer with
  | nil => exact iff_of_true rfl rfl
  | cons scope outer => exact iff_of_false (by simp [depth]) (by simp [serve, exit?])

/-- The scopes around one that stays open stay as they are. -/
theorem outer_of_moves (hm : s.Moves e s') (h : e.nesting around = some around') :
    s'.outer.drop around' = s.outer.drop around := by
  cases hm with
  | entered =>
    cases h
    rfl
  | left houter =>
    obtain ⟨inner, outer⟩ := s
    cases around with
    | zero => cases h
    | succ n =>
      cases h
      cases outer with
      | nil => exact absurd rfl houter
      | cons scope outer => rfl
  | declared =>
    cases h
    rfl
  | idle hidle =>
    cases (hidle.nesting around).symm.trans h
    rfl

/-! ### Sessions -/

namespace Session

/-- The scopes of a session are those that its record tells. -/
structure Sound (t : Session) : Prop where
  has_iff : ∀ {around name symbol},
    t.scopes.Has around (name, symbol) ↔ Open t.record around name symbol
  distinct : t.scopes.Distinct
  depth_eq :
    t.scopes.depth + t.record.countP Exchange.leaves = t.record.countP Exchange.enters + 1

theorem sound_start : start.Sound where
  has_iff := by
    refine ⟨fun h => absurd h not_has_start, ?_⟩
    rintro ⟨ago, ⟨e, he, -⟩, -⟩
    cases he
  distinct := distinct_start
  depth_eq := rfl

/-- What an exchange does to the scopes, it does to the declarations that are open. -/
theorem has_iff_of_moves
    (h : ∀ {around}, s.Has around (name, symbol) ↔ Open record around name symbol)
    (hm : s.Moves e s') :
    s'.Has around (name, symbol) ↔ Open (e :: record) around name symbol := by
  rw [open_cons_iff]
  cases hm with
  | entered =>
    have hnone : ¬Exchange.Declares ⟨.enter, .entered⟩ name symbol := fun ⟨_, _, h⟩ => nomatch h
    cases around with
    | zero => simp [not_has_enter_zero, hnone, Exchange.nesting]
    | succ n => simp [has_enter_succ, h, hnone, Exchange.nesting]
  | left houter =>
    have hnone : ¬Exchange.Declares ⟨.leave, .left true⟩ name symbol := fun ⟨_, _, h⟩ => nomatch h
    have hnesting : ∀ before, Exchange.nesting before ⟨.leave, .left true⟩ = some around ↔
        before = around + 1 := by
      intro before
      cases before <;> simp [Exchange.nesting]
    simp [has_leave houter, h, hnone, hnesting]
  | @declared name' symbol' line file hname =>
    have hdeclares :
        Exchange.Declares ⟨.declare name' symbol' line file, .declared (.ok ())⟩ name symbol ↔
          (name, symbol) = (name', symbol') := by
      simp [Exchange.Declares, eq_comm]
    simp [has_add, h, hdeclares, Exchange.nesting]
  | idle hidle => simp [h, hidle.not_declares, hidle.nesting]

theorem Sound.moved (h : Sound ⟨s, record⟩) (hm : s.Moves e s') : Sound ⟨s', e :: record⟩ where
  has_iff := has_iff_of_moves h.has_iff hm
  distinct := by
    cases hm with
    | entered => exact h.distinct.enter
    | left => exact h.distinct.leave
    | declared hname => exact h.distinct.add hname _
    | idle => exact h.distinct
  depth_eq := by
    have hdepth := h.depth_eq
    cases hm with
    | entered =>
      simp only [List.countP_cons, Exchange.enters, Exchange.leaves, depth_enter, ↓reduceIte,
        Bool.false_eq_true] at hdepth ⊢
      omega
    | left houter =>
      have hleave := depth_leave houter
      simp only [List.countP_cons, Exchange.enters, Exchange.leaves, ↓reduceIte,
        Bool.false_eq_true] at hdepth ⊢
      omega
    | declared => exact hdepth
    | idle hidle => simpa [hidle.not_enters, hidle.not_leaves] using hdepth

theorem Sound.serve (h : t.Sound) (r : Request) : (t.serve r).Sound :=
  Sound.moved h (moves_serve t.scopes r)

theorem Sound.serveAll (h : t.Sound) (requests : List Request) : (t.serveAll requests).Sound := by
  induction requests generalizing t with
  | nil => exact h
  | cons r requests ih => exact ih (h.serve r)

theorem serveAll_append (t : Session) (requests more : List Request) :
    t.serveAll (requests ++ more) = (t.serveAll requests).serveAll more :=
  List.foldl_append

/-- **A name stands for its latest declaration that is open.** The scopes know the nearest one; what
was declared in a nearer scope was declared later. -/
theorem Sound.lookup_eq_some_iff (h : t.Sound) :
    t.scopes.lookup name = some symbol ↔ Latest t.record name symbol := by
  rw [h.distinct.lookup_eq_some_iff]
  constructor
  · rintro ⟨around, hhas, hnearest⟩
    obtain ⟨ago, hopen⟩ := h.has_iff.mp hhas
    have hex : ∃ ago around symbol, OpenAt t.record ago around name symbol :=
      ⟨ago, around, symbol, hopen⟩
    classical
    obtain ⟨around', symbol', hlatest⟩ := Nat.find_spec hex
    have hhas' : t.scopes.Has around' (name, symbol') := h.has_iff.mpr ⟨_, hlatest⟩
    have hle : around' ≤ around :=
      hlatest.around_le hopen (Nat.find_min' hex ⟨around, symbol, hopen⟩)
    have hge : around ≤ around' := not_lt.mp fun hlt => hnearest around' hlt _ hhas' rfl
    obtain rfl := Nat.le_antisymm hle hge
    obtain rfl := h.distinct.symbol_unique hhas hhas'
    exact ⟨_, around', hlatest, fun later hlt around symbol hlater =>
      Nat.find_min hex hlt ⟨around, symbol, hlater⟩⟩
  · rintro ⟨ago, around, hopen, hlatest⟩
    refine ⟨around, h.has_iff.mpr ⟨ago, hopen⟩, ?_⟩
    rintro nearer hlt ⟨_, symbol'⟩ hhas rfl
    obtain ⟨ago', hopen'⟩ := h.has_iff.mp hhas
    have hle : ago ≤ ago' := not_lt.mp fun hlater => hlatest ago' hlater nearer symbol' hopen'
    exact absurd (hopen.around_le hopen' hle) (not_le.mpr hlt)

theorem Sound.lookup_eq_none_iff (h : t.Sound) :
    t.scopes.lookup name = none ↔ ∀ around symbol, ¬Open t.record around name symbol := by
  simp only [lookup_eq_none_iff_not_has, h.has_iff]

/-- While a scope is open, the scopes around it are what they were. -/
theorem outer_serveAll (t : Session) (requests : List Request)
    (h : nesting ((t.serveAll requests).record.take requests.length) = some around) :
    (t.serveAll requests).scopes.outer.drop around = t.scopes.outer := by
  induction requests using List.reverseRecOn generalizing around with
  | nil =>
    cases h
    rfl
  | append_singleton requests r ih =>
    rw [serveAll_append, List.length_append] at h
    obtain ⟨before, hbefore, hlast⟩ := Option.bind_eq_some_iff.mp h
    rw [serveAll_append, ← ih hbefore]
    exact outer_of_moves (moves_serve _ r) hlast

/-- **The exit that matches an enter undoes all between them.** -/
theorem leave_of_nesting (t : Session) (inside : List Request)
    (h : nesting (((t.serve .enter).serveAll inside).record.take inside.length) = some 0) :
    ((t.serve .enter).serveAll inside).scopes.serve .leave = (.left true, t.scopes) := by
  have houter : ((t.serve .enter).serveAll inside).scopes.outer =
      t.scopes.inner :: t.scopes.outer := outer_serveAll (t.serve .enter) inside h
  generalize ((t.serve .enter).serveAll inside).scopes = s at houter
  obtain ⟨inner, outer⟩ := s
  subst houter
  rfl

/-- What is answered next follows from the record. -/
structure FollowsRecord (t : Session) : Prop where
  lookup_some : ∀ name symbol,
    t.scopes.lookup name = some symbol ↔ Latest t.record name symbol
  lookup_none : ∀ name,
    t.scopes.lookup name = none ↔ ∀ around symbol, ¬Open t.record around name symbol
  fetch_ok : ∀ name line file symbol,
    t.scopes.fetch name line file = .ok symbol ↔ Latest t.record name symbol
  fetch_error : ∀ name line file d, t.scopes.fetch name line file = .error d ↔
    (∀ around symbol, ¬Open t.record around name symbol) ∧
      d = ⟨.variableNotDeclared name, line, file⟩
  declare_error : ∀ name symbol line file d, t.scopes.declare name symbol line file = .error d ↔
    (∃ earlier, Open t.record 0 name earlier) ∧ d = ⟨.variableAlreadyDeclared name, line, file⟩
  refused : ∀ name symbol line file d, t.scopes.declare name symbol line file = .error d →
    (t.serve (.declare name symbol line file)).scopes = t.scopes
  depth_eq :
    t.scopes.depth + t.record.countP Exchange.leaves = t.record.countP Exchange.enters + 1
  depth_pos : 0 < t.scopes.depth
  outermost : t.scopes.depth = 1 ↔ t.scopes.serve .leave = (.left false, t.scopes)
  /-- An exit that matches an enter, whatever was asked between them. -/
  restored : ∀ inside,
    nesting (((t.serve .enter).serveAll inside).record.take inside.length) = some 0 →
      ((t.serve .enter).serveAll inside).scopes.serve .leave = (.left true, t.scopes)

end Session

/-- **Scoping follows history**: after any requests, every answer is what the record of them says. -/
theorem scoping_follows_history (requests : List Request) :
    (Session.start.serveAll requests).FollowsRecord := by
  have h : (Session.start.serveAll requests).Sound := Session.sound_start.serveAll requests
  exact {
    lookup_some := fun _ _ => h.lookup_eq_some_iff
    lookup_none := fun _ => h.lookup_eq_none_iff
    fetch_ok := fun _ _ _ _ => fetch_eq_ok_iff.trans h.lookup_eq_some_iff
    fetch_error := fun _ _ _ _ => by rw [fetch_eq_error_iff, h.lookup_eq_none_iff]
    declare_error := fun _ _ _ _ _ => by simp only [declare_eq_error_iff, h.has_iff]
    refused := fun _ _ _ _ _ hd => congrArg Prod.snd (serve_declare_refused hd)
    depth_eq := h.depth_eq
    depth_pos := depth_pos _
    outermost := depth_eq_one_iff
    restored := Session.leave_of_nesting _ }

/-- A name declared in two scopes. An exit comes too early, and one declaration is refused. -/
def shadowing : List Request :=
  [.leave, .declare "a" ⟨.int, none⟩ 1 "f", .declare "a" ⟨.float, none⟩ 2 "f", .enter,
    .declare "a" ⟨.float, some 0⟩ 3 "f"]

theorem scoping_follows_history_shadowing :
    Latest (Session.start.serveAll shadowing).record "a" ⟨.float, some 0⟩ ∧
      (∃ earlier, Open (Session.start.serveAll shadowing).record 0 "a" earlier) ∧
      (((Session.start.serveAll shadowing).serve .enter).serveAll
          [.declare "a" ⟨.int, none⟩ 4 "f", .enter, .leave]).scopes.serve .leave =
        (.left true, (Session.start.serveAll shadowing).scopes) :=
  have h := scoping_follows_history shadowing
  ⟨(h.lookup_some "a" ⟨.float, some 0⟩).mp rfl,
    ((h.declare_error "a" ⟨.int, none⟩ 4 "f" ⟨.variableAlreadyDeclared "a", 4, "f"⟩).mp rfl).1,
    h.restored [.declare "a" ⟨.int, none⟩ 4 "f", .enter, .leave] rfl⟩

end Scopes

end DeskCalc
