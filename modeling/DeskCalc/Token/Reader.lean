/-!
A forward-only stream of characters with one cell for a character that was put back. What the
stream still has to give is one list of characters, and the operations are told by what they do to
it. A character put back into a cell that is taken pushes the other one out; the stream remembers
which characters were lost in this way.
-/

namespace DeskCalc.Token

/-- A stream of characters: one that was put back, if any, those not yet read, and those that were
pushed out of the cell. -/
structure Reader where
  pending : Option Char
  rest : List Char
  lost : List Char
  deriving Repr, DecidableEq

namespace Reader

def ofList (cs : List Char) : Reader :=
  ⟨none, cs, []⟩

/-- The characters that the stream still has to give. -/
def chars (r : Reader) : List Char :=
  r.pending.toList ++ r.rest

/-- The next character and the stream after it. -/
def read (r : Reader) : Option (Char × Reader) :=
  match r.pending, r.rest with
  | some c, _ => some (c, { r with pending := none })
  | none, [] => none
  | none, c :: rest => some (c, { r with rest })

/-- Puts a character into the cell; what the cell held before is lost. -/
def unread (r : Reader) (c : Char) : Reader :=
  { r with pending := some c, lost := r.pending.toList ++ r.lost }

theorem chars_of_read {r r' : Reader} {c : Char} (h : r.read = some (c, r')) :
    r.chars = c :: r'.chars := by
  obtain ⟨pending, rest, lost⟩ := r
  cases pending <;> cases rest <;> simp_all [read, chars] <;> simp [← h.2]

/-- After a character was read the cell is empty. -/
theorem pending_of_read {r r' : Reader} {c : Char} (h : r.read = some (c, r')) :
    r'.pending = none := by
  obtain ⟨pending, rest, lost⟩ := r
  cases pending <;> cases rest <;> simp_all [read] <;> simp [← h.2]

theorem lost_of_read {r r' : Reader} {c : Char} (h : r.read = some (c, r')) :
    r'.lost = r.lost := by
  obtain ⟨pending, rest, lost⟩ := r
  cases pending <;> cases rest <;> simp_all [read] <;> simp [← h.2]

theorem chars_of_read_none {r : Reader} (h : r.read = none) : r.chars = [] := by
  obtain ⟨pending, rest, lost⟩ := r
  cases pending <;> cases rest <;> simp_all [read, chars]

theorem read_of_chars {r : Reader} {c : Char} {cs : List Char} (h : r.chars = c :: cs) :
    ∃ r', r.read = some (c, r') ∧ r'.chars = cs ∧ r'.pending = none := by
  cases hr : r.read with
  | none =>
    rw [chars_of_read_none hr] at h
    cases h
  | some p =>
    obtain ⟨d, r'⟩ := p
    rw [chars_of_read hr] at h
    cases h
    exact ⟨r', rfl, rfl, pending_of_read hr⟩

theorem read_of_chars_nil {r : Reader} (h : r.chars = []) : r.read = none := by
  cases hr : r.read with
  | none => rfl
  | some p =>
    rw [chars_of_read hr] at h
    cases h

/-- A character put back into an empty cell is the next one again. -/
theorem chars_unread {r : Reader} (h : r.pending = none) (c : Char) :
    (r.unread c).chars = c :: r.chars := by
  simp [unread, chars, h]

/-- A character put back into an empty cell pushes none out. -/
theorem lost_unread {r : Reader} (h : r.pending = none) (c : Char) : (r.unread c).lost = r.lost := by
  simp [unread, h]

/-! ### Runs of characters -/

/-- The characters in front that satisfy `p`, and the stream after them: the first character that
does not is read and put back. -/
def takeWhile (p : Char → Bool) (r : Reader) : List Char × Reader :=
  match _h : r.read with
  | none => ([], r)
  | some (c, r') =>
    if p c then
      let (cs, r'') := r'.takeWhile p
      (c :: cs, r'')
    else ([], r'.unread c)
termination_by r.chars.length
decreasing_by simp [chars_of_read _h]

theorem takeWhile_fst (p : Char → Bool) (r : Reader) :
    (r.takeWhile p).1 = r.chars.takeWhile p := by
  fun_induction takeWhile p r with
  | case1 r h => simp [chars_of_read_none h]
  | case2 r c r' h hp cs r'' e ih => simp_all [chars_of_read h]
  | case3 r c r' h hp => simp_all [chars_of_read h]

theorem chars_takeWhile (p : Char → Bool) (r : Reader) :
    (r.takeWhile p).2.chars = r.chars.dropWhile p := by
  fun_induction takeWhile p r with
  | case1 r h => simp [chars_of_read_none h]
  | case2 r c r' h hp cs r'' e ih => simp_all [chars_of_read h]
  | case3 r c r' h hp => simp_all [chars_of_read h, chars_unread (pending_of_read h)]

theorem lost_takeWhile (p : Char → Bool) (r : Reader) : (r.takeWhile p).2.lost = r.lost := by
  fun_induction takeWhile p r with
  | case1 r h => rfl
  | case2 r c r' h hp cs r'' e ih => simp_all [lost_of_read h]
  | case3 r c r' h hp => simp [lost_of_read h, lost_unread (pending_of_read h)]

end Reader

end DeskCalc.Token
