import DeskCalc.Proofs.Dc.Words

/-!
The commands of the calculator, and texts as sequences of them. The calculator needs no blanks between
commands: it takes what its rules make the next command, and a numeral goes on as far as it can. Main
statements: a text splits into commands in one way only (`Splits.unique`), and a text whose words are
commands splits into these (`splits_of_words`), as the text of steps does (`splits_dcText`).
-/

namespace DeskCalc

namespace Dc

/-! ### Commands -/

/-- What may be done with a name: to push or pop the number in the register, and to fetch or put an
element of the array. -/
inductive Access where
  | load
  | store
  | fetch
  | put
  deriving Repr, DecidableEq

def Access.letter : Access → Char
  | load => 'l'
  | store => 's'
  | fetch => ';'
  | put => ':'

/-- The commands that programs are made of. -/
inductive Command where
  | numeral (text : List Char)
  | access (kind : Access) (name : Char)
  | operate (operator : Operator)
  | precision
  | print
  deriving Repr, DecidableEq

def Command.text : Command → List Char
  | numeral text => text
  | access kind name => [kind.letter, name]
  | operate operator => operator.sign.toList
  | precision => ['k']
  | print => ['p']

/-- The digits of numerals, which go on to sixteen in any base. -/
def isFigure (c : Char) : Bool :=
  c.isDigit || ('A' ≤ c && c ≤ 'F')

/-- Numerals: `_` or nothing, and digits with at most one point among or beside them. -/
inductive IsNumeral : List Char → Prop
  | whole {figures} : figures ≠ [] → figures.all isFigure = true → IsNumeral figures
  | point {whole fraction} :
      whole.all isFigure = true → fraction.all isFigure = true → IsNumeral (whole ++ '.' :: fraction)
  | negative {cs} : cs.head? ≠ some '_' → IsNumeral cs → IsNumeral ('_' :: cs)

/-- The command is the next one if its text stands in front of the rest: a numeral must not go on. -/
def Command.Leads : Command → List Char → Prop
  | numeral text, rest =>
    IsNumeral text ∧ ∀ more behind, rest = more ++ behind → IsNumeral (text ++ more) → more = []
  | _, _ => True

/-- The text is a sequence of commands, with any blanks between them. -/
inductive Splits : List Char → List Command → Prop
  | nil : Splits [] []
  | blank {c cs commands} : c.isWhitespace = true → Splits cs commands → Splits (c :: cs) commands
  | command {command rest commands} :
      command.Leads rest → Splits rest commands →
      Splits (command.text ++ rest) (command :: commands)

/-! ### One way to split -/

/-- The characters that numerals are made of. -/
def isNumeralChar (c : Char) : Bool :=
  isFigure c || c == '.' || c == '_'

theorem IsNumeral.all {cs : List Char} (h : IsNumeral cs) : ∀ c ∈ cs, isNumeralChar c = true := by
  have hfigures : ∀ {figures : List Char}, figures.all isFigure = true →
      ∀ c ∈ figures, isNumeralChar c = true := by
    intro figures hall c hc
    simp [isNumeralChar, List.all_eq_true.mp hall c hc]
  induction h with
  | whole _ hall => exact hfigures hall
  | point hw hf =>
    refine List.forall_mem_append.mpr ⟨hfigures hw, ?_⟩
    exact List.forall_mem_cons.mpr ⟨rfl, hfigures hf⟩
  | negative _ _ ih => exact List.forall_mem_cons.mpr ⟨rfl, ih⟩

theorem IsNumeral.ne_nil {cs : List Char} (h : IsNumeral cs) : cs ≠ [] := by
  cases h with
  | whole hne _ => exact hne
  | point => exact List.append_ne_nil_of_right_ne_nil _ (List.cons_ne_nil _ _)
  | negative => exact List.cons_ne_nil _ _

/-- No numeral begins with a character that is none of a numeral. -/
theorem IsNumeral.append_ne_cons {text rest cs : List Char} {c : Char} (h : IsNumeral text)
    (hc : isNumeralChar c = false) : text ++ rest ≠ c :: cs := by
  obtain ⟨d, ds, rfl⟩ := List.exists_cons_of_ne_nil h.ne_nil
  intro heq
  have hd := h.all d List.mem_cons_self
  rw [(List.cons.inj heq).1, hc] at hd
  cases hd

theorem isWhitespace_of_isNumeralChar {c : Char} (h : isNumeralChar c = true) :
    c.isWhitespace = false :=
  isWhitespace_of_class rfl h

namespace Command

/-- The command in front of a text, if it is no numeral. -/
def read? : List Char → Option (Command × List Char)
  | 'l' :: name :: rest => some (access .load name, rest)
  | 's' :: name :: rest => some (access .store name, rest)
  | ';' :: name :: rest => some (access .fetch name, rest)
  | ':' :: name :: rest => some (access .put name, rest)
  | '+' :: rest => some (operate .add, rest)
  | '-' :: rest => some (operate .sub, rest)
  | '*' :: rest => some (operate .mul, rest)
  | '/' :: rest => some (operate .div, rest)
  | 'k' :: rest => some (precision, rest)
  | 'p' :: rest => some (print, rest)
  | _ => none

/-- A command that is no numeral is told by its first character. -/
theorem numeral_or_letter (command : Command) :
    (∃ digits, command = numeral digits) ∨
      (∀ rest, read? (command.text ++ rest) = some (command, rest)) ∧
        ∃ c cs, command.text = c :: cs ∧ isNumeralChar c = false ∧ c.isWhitespace = false := by
  cases command with
  | numeral digits => exact .inl ⟨digits, rfl⟩
  | access kind name =>
    refine .inr ⟨fun rest => ?_, kind.letter, [name], rfl, ?_⟩
    · cases kind <;> rfl
    · cases kind <;> decide
  | operate operator => cases operator <;> exact .inr ⟨fun rest => rfl, _, [], rfl, by decide⟩
  | precision => exact .inr ⟨fun rest => rfl, 'k', [], rfl, by decide⟩
  | print => exact .inr ⟨fun rest => rfl, 'p', [], rfl, by decide⟩

/-- No blank stands in front of a command. -/
theorem Leads.text_eq_cons {command : Command} {rest : List Char} (h : command.Leads rest) :
    ∃ c cs, command.text = c :: cs ∧ c.isWhitespace = false := by
  rcases command.numeral_or_letter with ⟨digits, rfl⟩ | ⟨-, c, cs, htext, -, hc⟩
  · obtain ⟨c, cs, rfl⟩ := List.exists_cons_of_ne_nil h.1.ne_nil
    have hblank := isWhitespace_of_isNumeralChar (h.1.all c List.mem_cons_self)
    exact ⟨c, cs, rfl, hblank⟩
  · exact ⟨c, cs, htext, hc⟩

/-- **There is one next command.** -/
theorem Leads.unique {x y : Command} {rest rest' : List Char} (hx : x.Leads rest)
    (hy : y.Leads rest') (h : x.text ++ rest = y.text ++ rest') : x = y ∧ rest = rest' := by
  rcases x.numeral_or_letter with ⟨v, rfl⟩ | ⟨hreadx, c, cs, hc, hnot, -⟩
  · rcases y.numeral_or_letter with ⟨w, rfl⟩ | ⟨-, d, ds, hd, hnot, -⟩
    · -- of two numerals none goes on beyond the other
      rcases List.append_eq_append_iff.mp h with ⟨more, hw, hrest⟩ | ⟨more, hv, hrest⟩
      · obtain rfl := hx.2 more rest' hrest (hw ▸ hy.1)
        simp_all [text]
      · obtain rfl := hy.2 more rest hrest (hv ▸ hx.1)
        simp_all [text]
    · rw [hd] at h
      exact absurd h (hx.1.append_ne_cons hnot)
  · rcases y.numeral_or_letter with ⟨w, rfl⟩ | ⟨hready, -⟩
    · rw [hc] at h
      exact absurd h.symm (hy.1.append_ne_cons hnot)
    · have hread : some (x, rest) = some (y, rest') := by rw [← hreadx, h, hready]
      cases hread
      exact ⟨rfl, rfl⟩

end Command

namespace Splits

variable {text cs rest : List Char} {c : Char} {command : Command} {commands others : List Command}

theorem of_nil (h : Splits text commands) (ht : text = []) : commands = [] := by
  cases h with
  | nil => rfl
  | blank => cases ht
  | command hleads _ =>
    obtain ⟨c, cs, hcs, -⟩ := hleads.text_eq_cons
    rw [hcs] at ht
    cases ht

theorem of_blank (h : Splits text commands) (ht : text = c :: cs) (hc : c.isWhitespace = true) :
    Splits cs commands := by
  cases h with
  | nil => cases ht
  | blank _ hrest =>
    cases ht
    exact hrest
  | command hleads _ =>
    obtain ⟨d, ds, hds, hd⟩ := hleads.text_eq_cons
    rw [hds] at ht
    cases ht
    rw [hc] at hd
    cases hd

theorem of_command (h : Splits text others) (ht : text = command.text ++ rest)
    (hleads : command.Leads rest) : ∃ more, others = command :: more ∧ Splits rest more := by
  obtain ⟨d, ds, hds, hd⟩ := hleads.text_eq_cons
  cases h with
  | nil =>
    rw [hds] at ht
    cases ht
  | blank hc _ =>
    rw [hds] at ht
    cases ht
    rw [hc] at hd
    cases hd
  | command hleads' hrest =>
    obtain ⟨rfl, rfl⟩ := hleads.unique hleads' ht.symm
    exact ⟨_, rfl, hrest⟩

/-- **A text splits in one way only.** -/
theorem unique (h : Splits cs commands) (h' : Splits cs others) : others = commands := by
  induction h generalizing others with
  | nil => exact h'.of_nil rfl
  | blank hc _ ih => exact ih (h'.of_blank rfl hc)
  | command hleads _ ih =>
    obtain ⟨more, rfl, hmore⟩ := h'.of_command rfl hleads
    rw [ih hmore]

end Splits

/-! ### Words that are commands -/

def Command.word (command : Command) : String :=
  String.ofList command.text

/-- The command is a word of its own: its numeral is one, and its name is no blank. -/
def Command.IsWhole : Command → Prop
  | numeral digits => IsNumeral digits
  | access _ name => name.isWhitespace = false
  | _ => True

theorem Command.IsWhole.isWord {command : Command} (h : command.IsWhole) : IsWord command.text := by
  cases command with
  | numeral digits =>
    exact ⟨IsNumeral.ne_nil h, fun c hc => isWhitespace_of_isNumeralChar (IsNumeral.all h c hc)⟩
  | access kind name =>
    have hname : name.isWhitespace = false := h
    cases kind <;> simp [IsWord, text, Access.letter, hname]
  | operate operator => cases operator <;> simp [IsWord, text, Operator.sign]
  | precision => simp [IsWord, text]
  | print => simp [IsWord, text]

/-- A command that is a word is the next one before a blank and at the end of the text. -/
theorem Command.IsWhole.leads {command : Command} (h : command.IsWhole) {rest : List Char}
    (hrest : ∀ c ∈ rest.head?, c.isWhitespace = true) : command.Leads rest := by
  cases command with
  | numeral digits =>
    refine ⟨h, fun more behind hmore hnumeral => ?_⟩
    subst hmore
    cases more with
    | nil => rfl
    | cons c more =>
      have hblank := hrest c rfl
      have hc := hnumeral.all c (List.mem_append_right _ List.mem_cons_self)
      rw [isWhitespace_of_isNumeralChar hc] at hblank
      cases hblank
  | _ => trivial

theorem splits_blanks {blanks cs : List Char} {commands : List Command}
    (hb : ∀ c ∈ blanks, c.isWhitespace = true) (h : Splits cs commands) :
    Splits (blanks ++ cs) commands := by
  induction blanks with
  | nil => exact h
  | cons c blanks ih =>
    rw [List.forall_mem_cons] at hb
    exact .blank hb.1 (ih hb.2)

/-- **A text whose words are commands splits into these.** -/
theorem splits_of_words {cs : List Char} {commands : List Command}
    (hw : ∀ command ∈ commands, command.IsWhole) (h : words cs = commands.map Command.word) :
    Splits cs commands := by
  induction commands generalizing cs with
  | nil =>
    have hblanks := splits_blanks (words_eq_nil h) .nil
    rwa [List.append_nil] at hblanks
  | cons command commands ih =>
    rw [List.forall_mem_cons] at hw
    obtain ⟨blanks, rest, rfl, hblanks, hrest, hwords⟩ := words_eq_cons h
    rw [Command.word, String.toList_ofList]
    exact splits_blanks hblanks (.command (hw.1.leads hrest) (ih hw.2 hwords))

end Dc

/-! ### Steps -/

open Dc (Command)

namespace Storage

def loadCommands : Storage → List Command
  | register name => [.access .load name]
  | spilled index => [.numeral (toString index).toList, .access .fetch 'i']

def storeCommands : Storage → List Command
  | register name => [.access .store name]
  | spilled index => [.numeral (toString index).toList, .access .put 'i']

end Storage

namespace Dc

def precisionCommands (precision : Nat) : List Command :=
  [.numeral (toString precision).toList, .precision]

end Dc

def Step.commands (precision : Nat) : Step → List Command
  | preamble => Dc.precisionCommands precision
  | literal text _ => [.numeral (dcLiteral text).toList]
  | load slot _ => (Storage.ofSlot slot).loadCommands
  | store slot _ => (Storage.ofSlot slot).storeCommands
  | binary .div .int => Dc.precisionCommands 0 ++ .operate .div :: Dc.precisionCommands precision
  | binary operator _ => [.operate operator]
  | convert _ _ => []
  | print slot _ => (Storage.ofSlot slot).loadCommands ++ [.print, .access .store 'i']

/-- Apart from the quotient of integers an operation is a single command. -/
theorem Step.commands_binary {operator : Operator} {ty : Ty} (h : ¬(operator = .div ∧ ty = .int))
    (precision : Nat) : (binary operator ty).commands precision = [.operate operator] := by
  cases operator with
  | div => cases ty with
    | int => exact absurd ⟨rfl, rfl⟩ h
    | float => rfl
  | _ => rfl

namespace Dc

theorem word_numeral (text : String) : (Command.numeral text.toList).word = text :=
  String.ofList_toList

theorem word_access (kind : Access) (name : Char) :
    (Command.access kind name).word = kind.letter.toString ++ name.toString := by
  rw [← String.toList_inj, toList_named]
  exact String.toList_ofList

theorem map_word_precisionCommands (precision : Nat) :
    (precisionCommands precision).map Command.word = [toString precision, "k"] := by
  simp only [precisionCommands, List.map_cons, List.map_nil, word_numeral]
  rfl

theorem map_word_loadCommands (place : Storage) :
    place.loadCommands.map Command.word = place.loadWords := by
  cases place with
  | register name => exact congrArg (fun w => [w]) (word_access .load name)
  | spilled index =>
    simp only [Storage.loadCommands, List.map_cons, List.map_nil, word_numeral]
    rfl

theorem map_word_storeCommands (place : Storage) :
    place.storeCommands.map Command.word = place.storeWords := by
  cases place with
  | register name => exact congrArg (fun w => [w]) (word_access .store name)
  | spilled index =>
    simp only [Storage.storeCommands, List.map_cons, List.map_nil, word_numeral]
    rfl

/-- The words of a step are its commands. -/
theorem map_word_commands (precision : Nat) (s : Step) :
    (s.commands precision).map Command.word = s.words precision := by
  cases s with
  | preamble => exact map_word_precisionCommands precision
  | literal text ty => exact congrArg (fun w => [w]) (word_numeral _)
  | load slot ty => exact map_word_loadCommands _
  | store slot ty => exact map_word_storeCommands _
  | binary operator ty =>
    have hsign : ∀ operator : Operator, (Command.operate operator).word = operator.sign :=
      fun operator => String.ofList_toList
    by_cases hd : operator = .div ∧ ty = .int
    · obtain ⟨rfl, rfl⟩ := hd
      simp only [Step.commands, List.map_append, List.map_cons, map_word_precisionCommands, hsign]
      rfl
    · have hword : (Step.binary operator ty).words precision = [operator.sign] := by
        cases operator <;> cases ty <;> simp_all [Step.words]
      rw [Step.commands_binary hd, hword, List.map_singleton, hsign]
  | convert source target => rfl
  | print slot ty =>
    simp only [Step.commands, List.map_append, map_word_loadCommands, List.map_cons, List.map_nil]
    rfl

theorem all_isFigure {cs : List Char} (h : cs.all Char.isDigit = true) : cs.all isFigure = true :=
  List.all_eq_true.mpr fun c hc => by simp [isFigure, List.all_eq_true.mp h c hc]

theorem isNumeral_digits {cs : List Char} (h : Number.isDigits cs = true) : IsNumeral cs := by
  rw [Number.isDigits, Bool.and_eq_true] at h
  exact .whole (by simpa using h.1) (all_isFigure h.2)

/-- A number that is spelled as in a source text is a numeral. -/
theorem isNumeral_dcLiteral {text : String} {ty : Ty} (h : ty.Spells text.toList) :
    IsNumeral (dcLiteral text).toList := by
  rw [dcLiteral_eq (head?_spelled h)]
  cases ty with
  | int => exact isNumeral_digits h
  | float =>
    obtain ⟨whole, fraction, heq, hw, hf⟩ := h
    rw [Number.isDigits, Bool.and_eq_true] at hw hf
    rw [heq]
    exact .point (all_isFigure hw.2) (all_isFigure hf.2)

theorem isWhole_toString (n : Nat) : (Command.numeral (toString n).toList).IsWhole :=
  isNumeral_digits (isDigits_toString n)

theorem isWhole_precisionCommands (precision : Nat) :
    ∀ command ∈ precisionCommands precision, command.IsWhole :=
  List.forall_mem_cons.mpr ⟨isWhole_toString precision, List.forall_mem_singleton.mpr trivial⟩

theorem isWhole_access {kind : Access} {name : Char} (h : name.isAlpha = true) :
    (Command.access kind name).IsWhole :=
  isWhitespace_of_isAlphanum (by simp [Char.isAlphanum, h])

theorem isWhole_loadCommands (slot : Nat) :
    ∀ command ∈ (Storage.ofSlot slot).loadCommands, command.IsWhole := by
  cases hs : Storage.ofSlot slot with
  | register name =>
    obtain ⟨hn, -⟩ := isAlpha_of_mem_registers (Storage.register_mem hs)
    exact List.forall_mem_singleton.mpr (isWhole_access hn)
  | spilled index =>
    have hi : (Command.access .fetch 'i').IsWhole := isWhole_access rfl
    exact List.forall_mem_cons.mpr ⟨isWhole_toString index, List.forall_mem_singleton.mpr hi⟩

theorem isWhole_storeCommands (slot : Nat) :
    ∀ command ∈ (Storage.ofSlot slot).storeCommands, command.IsWhole := by
  cases hs : Storage.ofSlot slot with
  | register name =>
    obtain ⟨hn, -⟩ := isAlpha_of_mem_registers (Storage.register_mem hs)
    exact List.forall_mem_singleton.mpr (isWhole_access hn)
  | spilled index =>
    have hi : (Command.access .put 'i').IsWhole := isWhole_access rfl
    exact List.forall_mem_cons.mpr ⟨isWhole_toString index, List.forall_mem_singleton.mpr hi⟩

theorem isWhole_commands (precision : Nat) {s : Step}
    (hl : ∀ text ty, s = .literal text ty → IsNumeral (dcLiteral text).toList) :
    ∀ command ∈ s.commands precision, command.IsWhole := by
  cases s with
  | preamble => exact isWhole_precisionCommands precision
  | literal text ty => exact List.forall_mem_singleton.mpr (hl text ty rfl)
  | load slot ty => exact isWhole_loadCommands slot
  | store slot ty => exact isWhole_storeCommands slot
  | binary operator ty =>
    by_cases hd : operator = .div ∧ ty = .int
    · obtain ⟨rfl, rfl⟩ := hd
      refine List.forall_mem_append.mpr ⟨isWhole_precisionCommands 0, ?_⟩
      exact List.forall_mem_cons.mpr ⟨trivial, isWhole_precisionCommands precision⟩
    · rw [Step.commands_binary hd]
      exact List.forall_mem_singleton.mpr trivial
  | convert source target => simp [Step.commands]
  | print slot ty =>
    refine List.forall_mem_append.mpr ⟨isWhole_loadCommands slot, ?_⟩
    have hi : (Command.access .store 'i').IsWhole := isWhole_access rfl
    exact List.forall_mem_cons.mpr ⟨trivial, List.forall_mem_singleton.mpr hi⟩

/-- **The text of steps splits into the commands of the steps.** -/
theorem splits_dcText (precision : Nat) {steps : List Step}
    (hl : ∀ text ty, .literal text ty ∈ steps → IsNumeral (dcLiteral text).toList) :
    Splits (dcText precision steps).toList (steps.flatMap (Step.commands precision)) := by
  have hwords : words (dcText precision steps).toList = steps.flatMap (Step.words precision) := by
    refine (reads_dcText precision fun text ty hmem => ?_).words_eq
    have hwhole : (Command.numeral (dcLiteral text).toList).IsWhole := hl text ty hmem
    exact hwhole.isWord
  refine splits_of_words (fun command hc => ?_) ?_
  · obtain ⟨s, hs, hc⟩ := List.mem_flatMap.mp hc
    exact isWhole_commands precision (fun text ty he => hl text ty (he ▸ hs)) command hc
  · rw [hwords, List.map_flatMap]
    simp only [map_word_commands]

end Dc

end DeskCalc
