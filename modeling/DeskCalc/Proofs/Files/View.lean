import DeskCalc.Files.Volume
import Mathlib.Logic.Function.Basic

/-!
What is known of a file system from the outside. A view says what is at every place of it and to which
place a path leads. It is lawful if every step of access does no more than is documented of it: what
is read stays as it is, a temporary file is new, writing changes nothing but that file, a renaming is
done as a whole or not at all, and a file that is removed leaves nothing behind. Main statements: a
text that was put into a file is all that is new (`View.Lawful.holds_of_ok`), and one that could not be
put there leaves nothing behind (`View.Lawful.holds_of_error`).
-/

namespace DeskCalc.Files

/-- What can be seen of a file system: what is at a place, the place at the end of a path, and the
place of a temporary file. -/
structure View (World Handle Place : Type) where
  holds : World → Place → Option Entry
  leads : World → String → Option Place
  place : Handle → Place

variable {World Handle Place : Type}

def View.at? (v : View World Handle Place) (w : World) (path : String) : Option Entry :=
  (v.leads w path).bind (v.holds w)

variable [DecidableEq Place] [FileAccess (StateM World) Handle]

/-- **What is documented of the steps of access.** A step that is refused may have changed a temporary
file that it was about, but nothing else. -/
structure View.Lawful (v : View World Handle Place) : Prop where
  -- where a path leads is settled by what is at places, whatever else a world keeps
  leads_eq : ∀ {w w' : World}, v.holds w' = v.holds w → v.leads w' = v.leads w
  read_eq : ∀ {w w' : World} {path : String} {r : Except Reason String},
    (FileAccess.read (m := StateM World) path).run w = (r, w') → v.holds w' = v.holds w
  read_ok : ∀ {w w' : World} {path text : String},
    (FileAccess.read (m := StateM World) path).run w = (.ok text, w') →
      ∃ l, v.leads w path = some l ∧ v.holds w l = some (.file text.toUTF8)
  create_error : ∀ {w w' : World} {path : String} {reason : Reason},
    (FileAccess.createTemporary (m := StateM World) path).run w = (.error reason, w') →
      v.holds w' = v.holds w
  create_ok : ∀ {w w' : World} {path : String} {file : Handle},
    (FileAccess.createTemporary (m := StateM World) path).run w = (.ok file, w') →
      v.holds w (v.place file) = none ∧
      v.holds w' = Function.update (v.holds w) (v.place file) (some (.file .empty))
  -- a write that is refused may have written any part of the text before
  write_eq : ∀ {w w' : World} {file : Handle} {text : String} {r : Except Reason Unit},
    v.holds w (v.place file) = some (.file .empty) →
    (FileAccess.write (m := StateM World) file text).run w = (r, w') →
      ∃ bytes, v.holds w' = Function.update (v.holds w) (v.place file) (some (.file bytes)) ∧
        (r = .ok () → bytes = text.toUTF8)
  rename_error : ∀ {w w' : World} {file : Handle} {path : String} {bytes : ByteArray}
      {reason : Reason}, v.holds w (v.place file) = some (.file bytes) →
    (FileAccess.rename (m := StateM World) file path).run w = (.error reason, w') →
      v.holds w' = v.holds w
  rename_ok : ∀ {w w' : World} {file : Handle} {path : String} {bytes : ByteArray},
    v.holds w (v.place file) = some (.file bytes) →
    (FileAccess.rename (m := StateM World) file path).run w = (.ok (), w') →
      ∃ l, v.leads w' path = some l ∧
        v.holds w' = Function.update (Function.update (v.holds w) (v.place file) none) l
          (some (.file bytes))
  -- taking a file away is not refused: it is done on the way out, and nobody is told of it
  remove_eq : ∀ {w w' : World} {file : Handle} {bytes : ByteArray},
    v.holds w (v.place file) = some (.file bytes) →
    (FileAccess.remove (m := StateM World) file).run w = ((), w') →
      v.holds w' = Function.update (v.holds w) (v.place file) none

/-! ### Putting a text into a file -/

/-- A run of a step goes on in the state that the step left. -/
theorem run_bind_of {σ α β : Type} {x : StateM σ α} {f : α → StateM σ β} {s s' : σ} {a : α}
    (h : x.run s = (a, s')) : (x >>= f).run s = (f a).run s' := by
  show (match x.run s with | (a, s) => (f a).run s) = _
  rw [h]

/-- **How putting a text into a file ends**, by the step that was refused. -/
inductive Puts (output text : String) (w : World) : Except AccessError Unit → World → Prop
  | uncreated {reason w₁} :
      (FileAccess.createTemporary (m := StateM World) (directory output)).run w =
        (.error reason, w₁) →
      Puts output text w (.error ⟨.createTemporary, directory output, reason⟩) w₁
  | unwritten {file reason w₁ w₂ w₃} :
      (FileAccess.createTemporary (m := StateM World) (directory output)).run w = (.ok file, w₁) →
      (FileAccess.write (m := StateM World) file text).run w₁ = (.error reason, w₂) →
      (FileAccess.remove (m := StateM World) file).run w₂ = ((), w₃) →
      Puts output text w (.error ⟨.write, FileAccess.path (StateM World) file, reason⟩) w₃
  | unnamed {file reason w₁ w₂ w₃ w₄} :
      (FileAccess.createTemporary (m := StateM World) (directory output)).run w = (.ok file, w₁) →
      (FileAccess.write (m := StateM World) file text).run w₁ = (.ok (), w₂) →
      (FileAccess.rename (m := StateM World) file output).run w₂ = (.error reason, w₃) →
      (FileAccess.remove (m := StateM World) file).run w₃ = ((), w₄) →
      Puts output text w (.error ⟨.rename, output, reason⟩) w₄
  | put {file w₁ w₂ w₃} :
      (FileAccess.createTemporary (m := StateM World) (directory output)).run w = (.ok file, w₁) →
      (FileAccess.write (m := StateM World) file text).run w₁ = (.ok (), w₂) →
      (FileAccess.rename (m := StateM World) file output).run w₂ = (.ok (), w₃) →
      Puts output text w (.ok ()) w₃

theorem puts_of_run {output text : String} {w w' : World} {r : Except AccessError Unit}
    (h : (writeAtomically (m := StateM World) output text).run w = (r, w')) :
    Puts output text w r w' := by
  unfold writeAtomically at h
  rcases hcreate : (FileAccess.createTemporary (m := StateM World) (directory output)).run w with
    ⟨created, w₁⟩
  rw [run_bind_of hcreate] at h
  cases created with
  | error reason =>
    cases h
    exact .uncreated hcreate
  | ok file =>
    rcases hwrite : (FileAccess.write (m := StateM World) file text).run w₁ with ⟨wrote, w₂⟩
    simp only at h
    rw [run_bind_of hwrite] at h
    cases wrote with
    | error reason =>
      rcases hremove : (FileAccess.remove (m := StateM World) file).run w₂ with ⟨_, w₃⟩
      simp only at h
      rw [run_bind_of hremove] at h
      cases h
      exact .unwritten hcreate hwrite hremove
    | ok u =>
      rcases hrename : (FileAccess.rename (m := StateM World) file output).run w₂ with ⟨named, w₃⟩
      simp only at h
      rw [run_bind_of hrename] at h
      cases named with
      | error reason =>
        rcases hremove : (FileAccess.remove (m := StateM World) file).run w₃ with ⟨_, w₄⟩
        simp only at h
        rw [run_bind_of hremove] at h
        cases h
        exact .unnamed hcreate hwrite hrename hremove
      | ok u =>
        cases h
        exact .put hcreate hwrite hrename

theorem Puts.run_eq {output text : String} {w w' : World} {r : Except AccessError Unit}
    (h : Puts output text w r w') :
    (writeAtomically (m := StateM World) output text).run w = (r, w') := by
  unfold writeAtomically
  cases h with
  | uncreated hcreate =>
    rw [run_bind_of hcreate]
    rfl
  | unwritten hcreate hwrite hremove =>
    rw [run_bind_of hcreate]
    simp only
    rw [run_bind_of hwrite]
    simp only
    rw [run_bind_of hremove]
    rfl
  | unnamed hcreate hwrite hrename hremove =>
    rw [run_bind_of hcreate]
    simp only
    rw [run_bind_of hwrite]
    simp only
    rw [run_bind_of hrename]
    simp only
    rw [run_bind_of hremove]
    rfl
  | put hcreate hwrite hrename =>
    rw [run_bind_of hcreate]
    simp only
    rw [run_bind_of hwrite]
    simp only
    rw [run_bind_of hrename]
    rfl

/-! ### All at once or not at all -/

namespace View.Lawful

variable {v : View World Handle Place} {w w₁ w₂ w' : World} {output text : String} {file : Handle}

/-- A place where nothing was, where something was put and taken away again. -/
theorem update_none_of_none {holds : Place → Option Entry} {l : Place} (h : holds l = none)
    (e : Option Entry) : Function.update (Function.update holds l e) l none = holds := by
  rw [Function.update_idem, ← h, Function.update_eq_self]

/-- A temporary file that was made and written is a file in a place where nothing was, and the only
thing that is new. -/
theorem written (hv : v.Lawful) {directory : String} {r : Except Reason Unit}
    (hcreate : (FileAccess.createTemporary (m := StateM World) directory).run w = (.ok file, w₁))
    (hwrite : (FileAccess.write (m := StateM World) file text).run w₁ = (r, w₂)) :
    v.holds w (v.place file) = none ∧
      ∃ bytes, v.holds w₂ = Function.update (v.holds w) (v.place file) (some (.file bytes)) ∧
        v.holds w₂ (v.place file) = some (.file bytes) ∧ (r = .ok () → bytes = text.toUTF8) := by
  obtain ⟨hnone, hcreated⟩ := hv.create_ok hcreate
  have hempty : v.holds w₁ (v.place file) = some (.file .empty) := by
    rw [hcreated, Function.update_self]
  obtain ⟨bytes, hbytes, htext⟩ := hv.write_eq hempty hwrite
  rw [hcreated, Function.update_idem] at hbytes
  exact ⟨hnone, bytes, hbytes, by rw [hbytes, Function.update_self], htext⟩

/-- **A text that could not be put into a file leaves nothing behind.** -/
theorem holds_of_error (hv : v.Lawful) {e : AccessError} (h : Puts output text w (.error e) w') :
    v.holds w' = v.holds w := by
  cases h with
  | uncreated hcreate => exact hv.create_error hcreate
  | unwritten hcreate hwrite hremove =>
    obtain ⟨hnone, bytes, hbytes, hfile, -⟩ := hv.written hcreate hwrite
    rw [hv.remove_eq hfile hremove, hbytes, update_none_of_none hnone]
  | unnamed hcreate hwrite hrename hremove =>
    obtain ⟨hnone, bytes, hbytes, hfile, -⟩ := hv.written hcreate hwrite
    have hkept := hv.rename_error hfile hrename
    rw [← hkept] at hfile
    rw [hv.remove_eq hfile hremove, hkept, hbytes, update_none_of_none hnone]

/-- **A text that was put into a file is all that is new**, at the end of the path. -/
theorem holds_of_ok (hv : v.Lawful) (h : Puts output text w (.ok ()) w') :
    ∃ l, v.leads w' output = some l ∧
      v.holds w' = Function.update (v.holds w) l (some (.file text.toUTF8)) := by
  cases h with
  | put hcreate hwrite hrename =>
    obtain ⟨hnone, bytes, hbytes, hfile, htext⟩ := hv.written hcreate hwrite
    obtain ⟨l, hl, hholds⟩ := hv.rename_ok hfile hrename
    refine ⟨l, hl, ?_⟩
    rw [hholds, hbytes, update_none_of_none hnone, htext rfl]

end View.Lawful

end DeskCalc.Files
