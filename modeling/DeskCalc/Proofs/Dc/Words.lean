import DeskCalc.Code.DcText
import DeskCalc.Proofs.Number.Reading
import DeskCalc.Proofs.Token.Lexeme

/-!
Calculator texts as words. A text is cut at blanks, and what stands between them are the words. Main
statement: the words of the text of steps are the words of one step after the other
(`reads_dcText`).
-/

namespace DeskCalc

namespace Dc

/-- The words of a text: what stands between blanks. -/
def words (cs : List Char) : List String :=
  ((cs.splitOnP Char.isWhitespace).filter (· ≠ [])).map String.ofList

/-- The characters are a word: there is at least one, and none is blank. -/
def IsWord (cs : List Char) : Prop :=
  cs ≠ [] ∧ ∀ c ∈ cs, c.isWhitespace = false

/-- A word and the blank behind it are read first. -/
theorem words_cons {w : List Char} (hw : IsWord w) {blank : Char} (hb : blank.isWhitespace = true)
    (rest : List Char) : words (w ++ blank :: rest) = String.ofList w :: words rest := by
  have hcut := List.splitOnP_append_cons_of_forall_mem hw.2 blank hb rest
  rw [words, hcut, List.filter_cons_of_pos (by simpa using hw.1)]
  rfl

/-- The text is made of the words, whatever stands behind it. -/
def Reads (text : String) (ws : List String) : Prop :=
  ∀ rest, words (text.toList ++ rest) = ws ++ words rest

theorem reads_empty : Reads "" [] :=
  fun _ => rfl

theorem Reads.append {text more : String} {ws vs : List String} (h : Reads text ws)
    (hmore : Reads more vs) : Reads (text ++ more) (ws ++ vs) := by
  intro rest
  rw [String.toList_append, List.append_assoc, h, hmore, List.append_assoc]

/-- The text is a single blank. -/
def IsBlank (text : String) : Prop :=
  ∃ c, text.toList = [c] ∧ c.isWhitespace = true

theorem isBlank_space : IsBlank " " :=
  ⟨' ', rfl, rfl⟩

theorem isBlank_line : IsBlank "\n" :=
  ⟨'\n', rfl, rfl⟩

theorem reads_word {w blank : String} (hw : IsWord w.toList) (hb : IsBlank blank) :
    Reads (w ++ blank) [w] := by
  intro rest
  obtain ⟨c, hb, hc⟩ := hb
  rw [String.toList_append, List.append_assoc, hb]
  show words (w.toList ++ c :: rest) = _
  rw [words_cons hw hc, String.ofList_toList]
  rfl

theorem Reads.words_eq {text : String} {ws : List String} (h : Reads text ws) :
    words text.toList = ws := by
  have hnil := h []
  rw [List.append_nil] at hnil
  rw [hnil]
  exact List.append_nil ws

/-! ### From words back to the text -/

theorem words_blank {c : Char} (hc : c.isWhitespace = true) (cs : List Char) :
    words (c :: cs) = words cs := by
  rw [words, List.splitOnP_cons_eq_if_modifyHead, if_pos hc, List.filter_cons_of_neg (by simp)]
  rfl

theorem words_append {w rest : List Char} (hw : IsWord w)
    (hrest : ∀ c ∈ rest.head?, c.isWhitespace = true) :
    words (w ++ rest) = String.ofList w :: words rest := by
  cases rest with
  | nil =>
    rw [List.append_nil, words, List.splitOnP_eq_singleton hw.2,
      List.filter_cons_of_pos (by simpa using hw.1)]
    rfl
  | cons c rest =>
    have hc := hrest c rfl
    rw [words_cons hw hc, words_blank hc]

/-- What does not begin with a blank begins with a word. -/
theorem exists_word {c : Char} (hc : c.isWhitespace = false) (cs : List Char) :
    ∃ w rest, c :: cs = w ++ rest ∧ IsWord w ∧ ∀ d ∈ rest.head?, d.isWhitespace = true := by
  obtain ⟨w, rest, rfl, hall, hstop⟩ := Token.exists_run (!·.isWhitespace) cs
  refine ⟨c :: w, rest, rfl, ⟨List.cons_ne_nil _ _, List.forall_mem_cons.mpr ⟨hc, ?_⟩⟩, ?_⟩
  · simpa using hall
  · simpa using hstop

/-- The first word of a text stands behind blanks only and before a blank or nothing. -/
theorem words_eq_cons {cs : List Char} {w : String} {ws : List String} (h : words cs = w :: ws) :
    ∃ blanks rest, cs = blanks ++ (w.toList ++ rest) ∧ (∀ c ∈ blanks, c.isWhitespace = true) ∧
      (∀ c ∈ rest.head?, c.isWhitespace = true) ∧ words rest = ws := by
  induction cs with
  | nil => cases h
  | cons c cs ih =>
    by_cases hc : c.isWhitespace = true
    · rw [words_blank hc] at h
      obtain ⟨blanks, rest, rfl, hblanks, hrest⟩ := ih h
      exact ⟨c :: blanks, rest, rfl, List.forall_mem_cons.mpr ⟨hc, hblanks⟩, hrest⟩
    · obtain ⟨v, rest, heq, hv, hrest⟩ := exists_word (Bool.eq_false_iff.mpr hc) cs
      rw [heq, words_append hv hrest] at h
      cases h
      exact ⟨[], rest, by rw [heq, String.toList_ofList]; rfl, by simp, hrest, rfl⟩

theorem words_eq_nil {cs : List Char} (h : words cs = []) : ∀ c ∈ cs, c.isWhitespace = true := by
  induction cs with
  | nil => simp
  | cons c cs ih =>
    by_cases hc : c.isWhitespace = true
    · rw [words_blank hc] at h
      exact List.forall_mem_cons.mpr ⟨hc, ih h⟩
    · obtain ⟨v, rest, heq, hv, hrest⟩ := exists_word (Bool.eq_false_iff.mpr hc) cs
      rw [heq, words_append hv hrest] at h
      cases h

/-! ### Numerals -/

/-- A class of characters without the blanks. -/
theorem isWhitespace_of_class {p : Char → Bool} (hp : [' ', '\t', '\r', '\n'].any p = false)
    {c : Char} (h : p c = true) : c.isWhitespace = false := by
  rw [Bool.eq_false_iff]
  intro hc
  have hmem : c ∈ [' ', '\t', '\r', '\n'] := by simpa [Char.isWhitespace, or_assoc] using hc
  exact List.any_eq_false.mp hp c hmem h

theorem isWhitespace_of_isAlphanum {c : Char} (h : c.isAlphanum = true) : c.isWhitespace = false :=
  isWhitespace_of_class rfl h

theorem isWord_digits {cs : List Char} (h : Number.isDigits cs = true) : IsWord cs := by
  simp only [Number.isDigits, Bool.and_eq_true, Bool.not_eq_true', List.isEmpty_eq_false_iff,
    List.all_eq_true] at h
  exact ⟨h.1, fun c hc => isWhitespace_of_isAlphanum (by simp [Char.isAlphanum, h.2 c hc])⟩

theorem toList_toString (n : Nat) : (toString n).toList = Nat.toDigits 10 n := by
  rw [Nat.toString_eq_repr, Nat.toList_repr]

/-- A natural number is written in decimal digits. -/
theorem isDigits_toString (n : Nat) : Number.isDigits (toString n).toList = true := by
  rw [toList_toString]
  simp only [Number.isDigits, Bool.and_eq_true, Bool.not_eq_true', List.isEmpty_eq_false_iff,
    List.all_eq_true]
  exact ⟨Nat.toDigits_ne_nil, fun c hc => Nat.isDigit_of_mem_toDigits (by decide) (by decide) hc⟩

theorem digitsValue_toString (n : Nat) : Number.digitsValue (toString n).toList = n := by
  rw [toList_toString]
  exact Nat.ofDigitChars_ten_toDigits

/-- A text that does not begin with a sign is written as it is. -/
theorem dcLiteral_eq {text : String} (h : text.toList.head? ≠ some '-') : dcLiteral text = text := by
  unfold dcLiteral
  split
  · rename_i heq
    rw [heq] at h
    exact absurd rfl h
  · rfl

theorem head?_spelled {ty : Ty} {cs : List Char} (h : ty.Spells cs) : cs.head? ≠ some '-' := by
  have hfront : ∀ {ds : List Char} (more : List Char), Number.isDigits ds = true →
      (ds ++ more).head? ≠ some '-' := by
    intro ds more hds
    obtain ⟨c, rest, rfl, hminus, -⟩ := Number.head_digits hds
    exact fun he => hminus (Option.some.inj he)
  cases ty with
  | int => exact List.append_nil cs ▸ hfront [] h
  | float =>
    obtain ⟨whole, fraction, rfl, hw, -⟩ := h
    exact hfront _ hw

/-- A number that is spelled as in a source text is a word of the calculator. -/
theorem isWord_dcLiteral {text : String} {ty : Ty} (h : ty.Spells text.toList) :
    IsWord (dcLiteral text).toList := by
  rw [dcLiteral_eq (head?_spelled h)]
  cases ty with
  | int => exact isWord_digits h
  | float =>
    obtain ⟨whole, fraction, heq, hw, hf⟩ := h
    rw [heq]
    refine ⟨by simp, fun c hc => ?_⟩
    rcases List.mem_append.mp hc with hc | hc
    · exact (isWord_digits hw).2 c hc
    · rcases List.mem_cons.mp hc with rfl | hc
      · rfl
      · exact (isWord_digits hf).2 c hc

end Dc

/-! ### Steps -/

/-- Variables live in registers that are named by letters, and not in the register that printing
uses. -/
theorem isAlpha_of_mem_registers {name : Char} (h : name ∈ registers) :
    name.isAlpha = true ∧ name ≠ 'i' := by
  have hall : registers.all (fun c => c.isAlpha && c != 'i') = true := by decide +kernel
  have hname := List.all_eq_true.mp hall name h
  simpa using hname

namespace Storage

theorem register_mem {slot : Nat} {name : Char} (h : ofSlot slot = register name) :
    name ∈ registers := by
  unfold ofSlot at h
  split at h
  · rename_i c hc
    cases h
    exact List.mem_of_getElem? hc
  · cases h

/-- No two slots share a place. -/
theorem ofSlot_injective {a b : Nat} (h : ofSlot a = ofSlot b) : a = b := by
  have hnodup : registers.Nodup := by decide +kernel
  unfold ofSlot at h
  cases ha : registers[a]? with
  | some name =>
    cases hb : registers[b]? with
    | some name' =>
      rw [ha, hb] at h
      cases h
      have hlt := (List.getElem?_eq_some_iff.mp ha).1
      exact (List.getElem?_inj hlt hnodup).mp (ha.trans hb.symm)
    | none =>
      rw [ha, hb] at h
      cases h
  | none =>
    cases hb : registers[b]? with
    | some name' =>
      rw [ha, hb] at h
      cases h
    | none =>
      rw [ha, hb] at h
      have hla := List.getElem?_eq_none_iff.mp ha
      have hlb := List.getElem?_eq_none_iff.mp hb
      have hsub : a - registers.length = b - registers.length := spilled.inj h
      omega

def loadWords : Storage → List String
  | register name => ["l" ++ name.toString]
  | spilled index => [toString index, ";i"]

def storeWords : Storage → List String
  | register name => ["s" ++ name.toString]
  | spilled index => [toString index, ":i"]

end Storage

def Step.words (precision : Nat) : Step → List String
  | preamble => [toString precision, "k"]
  | literal text _ => [dcLiteral text]
  | load slot _ => (Storage.ofSlot slot).loadWords
  | store slot _ => (Storage.ofSlot slot).storeWords
  | binary .div .int => ["0", "k", "/", toString precision, "k"]
  | binary operator _ => [operator.sign]
  | convert _ _ => []
  | print slot _ => (Storage.ofSlot slot).loadWords ++ ["p", "si"]

namespace Dc

theorem toList_named (letter name : Char) :
    (letter.toString ++ name.toString).toList = [letter, name] := by
  rw [String.toList_append]
  simp [Char.toString]

/-- A command letter and the name of a register make up a word. -/
theorem isWord_named {letter : Char} (hl : letter.isWhitespace = false) {name : Char}
    (hn : name.isAlpha = true) : IsWord (letter.toString ++ name.toString).toList := by
  rw [toList_named]
  refine ⟨List.cons_ne_nil _ _, fun c hc => ?_⟩
  rcases List.mem_cons.mp hc with rfl | hc
  · exact hl
  · rw [List.mem_singleton.mp hc]
    exact isWhitespace_of_isAlphanum (by simp [Char.isAlphanum, hn])

section Steps

variable {blank : String} (hb : IsBlank blank)

include hb

theorem reads_toString (n : Nat) : Reads (toString n ++ blank) [toString n] :=
  reads_word (isWord_digits (isDigits_toString n)) hb

/-- An index and the command that uses it. -/
theorem reads_indexed (n : Nat) (command : String) (hw : IsWord command.toList) :
    Reads (toString n ++ (" " ++ command) ++ blank) [toString n, command] := by
  have hindex := reads_toString isBlank_space n
  have hboth := hindex.append (reads_word hw hb)
  rwa [← String.append_assoc, String.append_assoc] at hboth ⊢

theorem reads_load (slot : Nat) :
    Reads ((Storage.ofSlot slot).load ++ blank) (Storage.ofSlot slot).loadWords := by
  cases hs : Storage.ofSlot slot with
  | register name =>
    obtain ⟨hn, -⟩ := isAlpha_of_mem_registers (Storage.register_mem hs)
    have hl : 'l'.isWhitespace = false := by decide
    exact reads_word (isWord_named hl hn) hb
  | spilled index => exact reads_indexed hb index ";i" (by simp [IsWord])

theorem reads_store (slot : Nat) :
    Reads ((Storage.ofSlot slot).store ++ blank) (Storage.ofSlot slot).storeWords := by
  cases hs : Storage.ofSlot slot with
  | register name =>
    obtain ⟨hn, -⟩ := isAlpha_of_mem_registers (Storage.register_mem hs)
    have hl : 's'.isWhitespace = false := by decide
    exact reads_word (isWord_named hl hn) hb
  | spilled index => exact reads_indexed hb index ":i" (by simp [IsWord])

end Steps

theorem reads_precision (precision : Nat) :
    Reads (precisionCommand precision) [toString precision, "k"] := by
  have h := reads_indexed isBlank_line precision "k" (by simp [IsWord])
  rwa [String.append_assoc] at h

/-- A command on a line of its own. -/
theorem reads_line {w : String} (hw : IsWord w.toList) : Reads (w ++ "\n") [w] :=
  reads_word hw isBlank_line

theorem reads_binary (precision : Nat) (operator : Operator) (ty : Ty) :
    Reads ((Step.binary operator ty).dcText precision)
      ((Step.binary operator ty).words precision) := by
  by_cases hd : operator = .div ∧ ty = .int
  · obtain ⟨rfl, rfl⟩ := hd
    have hzero : Reads ("0" ++ " ") ["0"] := reads_word (by simp [IsWord]) isBlank_space
    have hk : Reads ("k" ++ "\n") ["k"] := reads_line (by simp [IsWord])
    have hdiv : Reads ("/" ++ "\n") ["/"] := reads_line (by simp [IsWord])
    exact ((hzero.append hk).append hdiv).append (reads_precision precision)
  · have hsign : Reads (operator.sign ++ "\n") [operator.sign] := by
      refine reads_line ?_
      cases operator <;> simp [IsWord, Operator.sign]
    cases operator with
    | add => exact hsign
    | sub => exact hsign
    | mul => exact hsign
    | div =>
      cases ty with
      | int => exact absurd ⟨rfl, rfl⟩ hd
      | float => exact hsign

theorem reads_step (precision : Nat) {s : Step}
    (hl : ∀ text ty, s = .literal text ty → IsWord (dcLiteral text).toList) :
    Reads (s.dcText precision) (s.words precision) := by
  cases s with
  | preamble => exact reads_precision precision
  | literal text ty => exact reads_word (hl text ty rfl) isBlank_space
  | load slot ty => exact reads_load isBlank_space slot
  | store slot ty => exact reads_store isBlank_line slot
  | binary operator ty => exact reads_binary precision operator ty
  | convert source target => exact reads_empty
  | print slot ty =>
    have hload := reads_load isBlank_line slot
    have hp : Reads ("p" ++ "\n") ["p"] := reads_line (by simp [IsWord])
    have hs : Reads ("si" ++ "\n") ["si"] := reads_line (by simp [IsWord])
    have hall := hload.append (hp.append hs)
    rwa [String.append_assoc] at hall

theorem reads_dcText (precision : Nat) {steps : List Step}
    (hl : ∀ text ty, .literal text ty ∈ steps → IsWord (dcLiteral text).toList) :
    Reads (dcText precision steps) (steps.flatMap (Step.words precision)) := by
  induction steps with
  | nil => exact reads_empty
  | cons s steps ih =>
    have hs := reads_step precision fun text ty he => hl text ty (he ▸ List.mem_cons_self)
    have hrest := ih fun text ty he => hl text ty (List.mem_cons_of_mem _ he)
    rw [dcText, List.map_cons, String.join_cons]
    exact hs.append hrest

end Dc

end DeskCalc
