import DeskCalc.Proofs.Files.View
import DeskCalc.Proofs.Outcome
import Mathlib.Data.List.TakeWhile

/-!
A volume is a lawful file system. Where a path leads is a matter of the directories that it passes, so
it leads to the same place after files were put and taken away, and a file that was renamed to a path
is what the path leads to (`Volume.locate_of_destination`). Main statement: the steps of access on a
volume do what is documented of them (`Volume.lawful`).
-/

namespace DeskCalc.Files

namespace Volume

variable {v v' : Volume} {l d : Location}

/-! ### Entries -/

theorem lookup_filter_of_ne {entries : List (Location × Entry)} {l l' : Location} (h : l' ≠ l) :
    (entries.filter (·.1 ≠ l)).lookup l' = entries.lookup l' := by
  induction entries with
  | nil => rfl
  | cons entry entries ih =>
    obtain ⟨k, e⟩ := entry
    by_cases hk : k = l
    · have hne : (l' == k) = false := by simpa [hk] using h
      rw [List.filter_cons_of_neg (by simpa using hk), ih, List.lookup_cons, hne]
    · rw [List.filter_cons_of_pos (by simpa using hk), List.lookup_cons, List.lookup_cons, ih]

theorem lookup_filter_self (entries : List (Location × Entry)) (l : Location) :
    (entries.filter (·.1 ≠ l)).lookup l = none := by
  rw [List.lookup_eq_none_iff]
  intro entry hmem
  simpa using fun h => (of_decide_eq_true (List.mem_filter.mp hmem).2) h.symm

theorem entry?_of_nonempty (hl : l.names ≠ []) : v.entry? l = v.entries.lookup l := by
  unfold entry?
  rw [if_neg (by simpa using hl)]

theorem entry?_of_empty (hl : l.names = []) : v.entry? l = some .directory := by
  unfold entry?
  rw [hl]
  rfl

/-- A file is not one of the two directories that are always there. -/
theorem names_ne_nil {bytes : ByteArray} (h : v.entry? l = some (.file bytes)) : l.names ≠ [] := by
  intro hl
  rw [entry?_of_empty hl] at h
  cases h

theorem entry?_erase (hl : l.names ≠ []) :
    entry? (v.erase l) = Function.update v.entry? l none := by
  funext l'
  by_cases h : l' = l
  · rw [h, Function.update_self, entry?_of_nonempty hl]
    exact lookup_filter_self v.entries l
  · rw [Function.update_of_ne h]
    by_cases hl' : l'.names = []
    · rw [entry?_of_empty hl', entry?_of_empty hl']
    · rw [entry?_of_nonempty hl', entry?_of_nonempty hl']
      exact lookup_filter_of_ne h

theorem entry?_put (hl : l.names ≠ []) (e : Entry) :
    entry? (v.put l e) = Function.update v.entry? l (some e) := by
  funext l'
  by_cases hl' : l'.names = []
  · have h : l' ≠ l := fun h => hl (h ▸ hl')
    rw [Function.update_of_ne h, entry?_of_empty hl', entry?_of_empty hl']
  · rw [entry?_of_nonempty hl', put, List.lookup_append]
    by_cases h : l' = l
    · rw [h, lookup_filter_self, Function.update_self]
      simp
    · have hne : (l' == l) = false := by simpa using h
      rw [lookup_filter_of_ne h, Function.update_of_ne h, entry?_of_nonempty hl', List.lookup_cons,
        hne]
      simp

/-! ### Names that are not taken -/

theorem length_le_longestName {entry : Location × Entry} {name : String}
    (hentry : entry ∈ v.entries) (hname : name ∈ entry.1.names) : name.length ≤ v.longestName := by
  rw [longestName, List.foldl_max]
  refine Nat.le_trans (List.le_max?_getD_of_mem ?_) (Nat.le_max_right _ _)
  exact List.mem_flatMap.mpr ⟨entry, hentry, List.mem_map_of_mem hname⟩

theorem child_names_ne_nil (l : Location) (name : String) : (l.child name).names ≠ [] := by
  simp [Location.child]

/-- Nothing has the name of the next temporary file. -/
theorem entry?_freshName (v : Volume) (l : Location) : v.entry? (l.child v.freshName) = none := by
  rw [entry?_of_nonempty (child_names_ne_nil l _), List.lookup_eq_none_iff]
  intro entry hentry
  rw [bne_iff_ne]
  intro heq
  have hmem : v.freshName ∈ entry.1.names := by
    rw [← heq]
    exact List.mem_append_right _ (List.mem_singleton_self _)
  have hle := length_le_longestName hentry hmem
  have hlength : v.freshName.length = 4 + v.longestName := by
    simp only [freshName, String.length_append, String.length_ofList, List.length_replicate]
    rfl
  omega

/-! ### Where paths lead -/

theorem walk_congr (h : v'.entry? = v.entry?) (l : Location) (pieces : List String) :
    v'.walk l pieces = v.walk l pieces := by
  induction pieces generalizing l with
  | nil => rfl
  | cons piece pieces ih => simp only [walk, h, ih]

theorem locate_congr (h : v'.entry? = v.entry?) (path : String) : v'.locate path = v.locate path := by
  rw [locate, walk_congr h]
  rfl

theorem walk_append (l : Location) (front back : List String) :
    v.walk l (front ++ back) = v.walk l front >>= (v.walk · back) := by
  induction front generalizing l with
  | nil => rfl
  | cons piece front ih =>
    simp only [List.cons_append, walk, ih]
    split
    · rfl
    · split
      · rfl
      · split
        · rfl
        · split
          · rfl
          · split <;> rfl

/-- A test that was passed. -/
theorem of_ite_error {α : Type} {c : Prop} [Decidable c] {reason : Reason} {x : Except Reason α}
    {a : α} (h : (if c then .error reason else x) = .ok a) : ¬c ∧ x = .ok a := by
  by_cases hc : c
  · rw [if_pos hc] at h
    cases h
  · rw [if_neg hc] at h
    exact ⟨hc, h⟩

/-- A way to a directory begins at a directory. -/
theorem directory_of_walk {pieces : List String} (h : v.walk l pieces = .ok d)
    (hd : v.entry? d = some .directory) : v.entry? l = some .directory := by
  cases pieces with
  | nil =>
    cases h
    exact hd
  | cons piece pieces =>
    rw [walk] at h
    exact not_not.mp (of_ite_error h).1

/-- **A way to a directory passes directories only**, so it stays where these stay. -/
theorem walk_of_kept (hk : ∀ l, v.entry? l = some .directory → v'.entry? l = some .directory)
    {pieces : List String} (h : v.walk l pieces = .ok d) (hd : v.entry? d = some .directory) :
    v'.walk l pieces = .ok d := by
  induction pieces generalizing l with
  | nil => exact h
  | cons piece pieces ih =>
    have hl := directory_of_walk h hd
    rw [walk] at h ⊢
    obtain ⟨-, h⟩ := of_ite_error h
    rw [if_neg (by simp [hk l hl])]
    by_cases htrivial : Path.isTrivial piece = true
    · rw [if_pos htrivial] at h ⊢
      exact ih h
    · rw [if_neg htrivial] at h ⊢
      by_cases houter : piece = ".."
      · rw [if_pos houter] at h ⊢
        exact ih h
      · rw [if_neg houter] at h ⊢
        obtain ⟨hshort, h⟩ := of_ite_error h
        obtain ⟨-, h⟩ := of_ite_error h
        have hchild := hk _ (directory_of_walk h hd)
        rw [if_neg hshort, if_neg (by simp [hchild])]
        exact ih h

/-- What a destination is: a name in a directory that a path leads to. -/
structure Aims (v : Volume) (path : String) (front : List String) (d : Location) (name : String) :
    Prop where
  allowed : checkPath path = .ok ()
  pieces : (Path.ofText path).pieces = front ++ [name]
  front : v.walk (startOf (Path.ofText path)) front = .ok d
  directory : v.entry? d = some .directory
  nontrivial : Path.isTrivial name = false
  inner : name ≠ ".."
  short : ¬maxNameBytes < name.utf8ByteSize
  free : v.entry? (d.child name) ≠ some .directory

/-- Pieces of which none at the end is left out. -/
theorem eq_of_significant {pieces : List String} {name : String}
    (hlast : (pieces.reverse.dropWhile (· = "")).reverse.getLast? = some name)
    (hlength : ¬(pieces.reverse.dropWhile (· = "")).reverse.length < pieces.length) :
    pieces = (pieces.reverse.dropWhile (· = "")).reverse.dropLast ++ [name] ∧ name ≠ "" := by
  have hsuffix := List.dropWhile_suffix (fun piece => decide (piece = "")) (l := pieces.reverse)
  have hall : pieces.reverse.dropWhile (· = "") = pieces.reverse := by
    refine hsuffix.eq_of_length_le ?_
    simpa using hlength
  rw [hall, List.reverse_reverse] at hlast ⊢
  obtain ⟨front, rfl⟩ := List.getLast?_eq_some_iff.mp hlast
  refine ⟨by rw [List.dropLast_concat], fun hname => ?_⟩
  rw [List.reverse_append, List.reverse_singleton, List.singleton_append,
    List.dropWhile_eq_self_iff] at hall
  exact hall (Nat.zero_lt_succ _) (decide_eq_true hname)

theorem aims_of_destination {path : String} (h : v.destination path = .ok l) :
    ∃ front d name, v.Aims path front d name ∧ l = d.child name := by
  unfold destination at h
  obtain ⟨⟨⟩, hallowed, h⟩ := Except.bind_eq_ok_iff.mp h
  simp only at h
  split at h
  · cases h
  · rename_i name hlast
    obtain ⟨d, hfront, h⟩ := Except.bind_eq_ok_iff.mp h
    obtain ⟨hdirectory, h⟩ := of_ite_error h
    obtain ⟨hdots, h⟩ := of_ite_error h
    obtain ⟨hshort, h⟩ := of_ite_error h
    obtain ⟨hlength, h⟩ := of_ite_error h
    obtain ⟨hfree, h⟩ := of_ite_error h
    cases h
    obtain ⟨hpieces, hname⟩ := eq_of_significant hlast hlength
    obtain ⟨hdot, hinner⟩ := not_or.mp hdots
    have hnontrivial : Path.isTrivial name = false := by simp [Path.isTrivial, hname, hdot]
    exact ⟨_, d, name, ⟨hallowed, hpieces, hfront, not_not.mp hdirectory, hnontrivial, hinner, hshort,
      hfree⟩, rfl⟩

theorem Aims.locate_eq {path name : String} {front : List String} (h : v.Aims path front d name)
    (hk : ∀ l, v.entry? l = some .directory → v'.entry? l = some .directory)
    (hname : v'.entry? (d.child name) ≠ none) : v'.locate path = .ok (d.child name) := by
  have hd := hk d h.directory
  have hwalk := walk_of_kept hk h.front h.directory
  rw [locate, h.allowed, h.pieces, walk_append]
  show v'.walk _ front >>= _ = _
  rw [hwalk]
  show v'.walk d [name] = _
  rw [walk, if_neg (by simp [hd]), h.nontrivial, if_neg Bool.false_ne_true, if_neg h.inner,
    if_neg h.short, if_neg (by simpa using hname)]
  rfl

/-! ### Steps -/

theorem locate_of_read {path text : String} (h : v.read path = .ok text) :
    ∃ l, v.locate path = .ok l ∧ v.entry? l = some (.file text.toUTF8) := by
  obtain ⟨⟨⟩, -, h⟩ := Except.bind_eq_ok_iff.mp h
  obtain ⟨l, hl, h⟩ := Except.bind_eq_ok_iff.mp h
  refine ⟨l, hl, ?_⟩
  cases he : v.entry? l with
  | none =>
    rw [he] at h
    cases h
  | some e =>
    rw [he] at h
    cases e with
    | directory => cases h
    | file bytes =>
      simp only [String.fromUTF8?] at h
      split at h
      · rename_i text' htext
        split at htext
        · cases htext
          cases h
          rfl
        · cases htext
      · cases h

theorem create_eq_ok {path : String} {file : Location} (h : v.createTemporary path = .ok (file, v')) :
    v.entry? file = none ∧ v'.entry? = Function.update v.entry? file (some (.file .empty)) := by
  obtain ⟨⟨⟩, -, h⟩ := Except.bind_eq_ok_iff.mp h
  obtain ⟨l, -, h⟩ := Except.bind_eq_ok_iff.mp h
  cases h
  exact ⟨entry?_freshName v l, entry?_put (child_names_ne_nil l _) _⟩

/-- A file that was renamed is where the path leads, and where it was there is nothing. -/
theorem rename_eq_ok {file : Location} {path : String} {bytes : ByteArray}
    (hfile : v.entry? file = some (.file bytes)) (h : v.rename file path = .ok v') :
    ∃ l, v'.locate path = .ok l ∧
      v'.entry? = Function.update (Function.update v.entry? file none) l (some (.file bytes)) := by
  obtain ⟨⟨⟩, -, h⟩ := Except.bind_eq_ok_iff.mp h
  obtain ⟨l, hl, h⟩ := Except.bind_eq_ok_iff.mp h
  rw [hfile] at h
  cases h
  obtain ⟨front, d, name, haims, rfl⟩ := aims_of_destination hl
  have hentries : entry? ((v.erase file).put (d.child name) (.file bytes)) =
      Function.update (Function.update v.entry? file none) (d.child name) (some (.file bytes)) := by
    rw [entry?_put (child_names_ne_nil d name), entry?_erase (names_ne_nil hfile)]
  refine ⟨d.child name, haims.locate_eq (fun l hl => ?_) ?_, hentries⟩
  · have hnot : l ≠ d.child name := fun h => haims.free (h ▸ hl)
    have hother : l ≠ file := by
      rintro rfl
      rw [hfile] at hl
      cases hl
    rw [hentries, Function.update_of_ne hnot, Function.update_of_ne hother, hl]
  · rw [hentries, Function.update_self]
    exact Option.some_ne_none _

theorem keep_eq_ok {α : Type} {r : Except Reason (α × Volume)} {a : α}
    (h : v.keep r = (.ok a, v')) : r = .ok (a, v') := by
  cases r with
  | error reason => cases h
  | ok made =>
    cases h
    rfl

theorem keep_eq_error {α : Type} {r : Except Reason (α × Volume)} {reason : Reason}
    (h : v.keep r = (.error reason, v')) : v' = v := by
  cases r with
  | error reason =>
    cases h
    rfl
  | ok made => cases h

/-! ### What is documented -/

def view : View Volume Location Location where
  holds := entry?
  leads v path := (v.locate path).toOption
  place := id

theorem leads_of_locate {path : String} (h : v.locate path = .ok l) :
    view.leads v path = some l :=
  congrArg Except.toOption h

/-- **A volume keeps to what is documented** of the steps of access. -/
theorem lawful : view.Lawful where
  leads_eq h := funext fun path => congrArg Except.toOption (locate_congr h path)
  read_eq h := by
    cases h
    rfl
  read_ok h := by
    obtain ⟨hread, rfl⟩ := Prod.mk.inj h
    obtain ⟨l, hl, he⟩ := locate_of_read hread
    exact ⟨l, leads_of_locate hl, he⟩
  create_error h := congrArg entry? (keep_eq_error h)
  create_ok h := create_eq_ok (keep_eq_ok h)
  write_eq {w w' file text r} hfile h := by
    cases r with
    | error reason =>
      have hkept : w'.entry? = w.entry? := congrArg entry? (keep_eq_error h)
      exact ⟨.empty, by rw [← hfile, Function.update_eq_self]; exact hkept, nofun⟩
    | ok u =>
      obtain ⟨made, hwrite, hmade⟩ := Except.map_eq_ok_iff.mp (keep_eq_ok h)
      cases hmade
      obtain ⟨⟨⟩, -, hput⟩ := Except.bind_eq_ok_iff.mp hwrite
      cases hput
      exact ⟨text.toUTF8, entry?_put (names_ne_nil hfile) _, fun _ => rfl⟩
  rename_error _ h := congrArg entry? (keep_eq_error h)
  rename_ok hfile h := by
    obtain ⟨made, hrename, hmade⟩ := Except.map_eq_ok_iff.mp (keep_eq_ok h)
    cases hmade
    obtain ⟨l, hl, hentries⟩ := rename_eq_ok hfile hrename
    exact ⟨l, leads_of_locate hl, hentries⟩
  remove_eq hfile h := by
    cases h
    exact entry?_erase (names_ne_nil hfile)

end Volume

end DeskCalc.Files
