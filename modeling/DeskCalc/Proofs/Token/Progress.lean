import DeskCalc.Proofs.Token.Pieces

/-!
Calls of a scanner made one after the other, whatever they give. A call takes characters from the front of
the text and counts their line ends, and it never puts a character back while another one waits
(`Scanner.exists_takes`); so does any number of calls (`Scanner.exists_consumed`). Main statement: each call
makes progress until the text is used up, and from then on nothing changes (`scanner_always_progresses`). The
line counter tells the line up to `2 ^ 32 - 2` line ends; with one more it is zero
(`line_counter_starts_again`).
-/

namespace DeskCalc

namespace Token.Reader

/-- A character put back pushes another one out exactly if the cell is taken. -/
theorem lost_unread_eq_iff {r : Reader} {c : Char} :
    (r.unread c).lost = r.lost ↔ r.pending = none := by
  constructor
  · intro h
    simpa [unread] using congrArg List.length h
  · intro h
    exact lost_unread h c

end Token.Reader

namespace Scanner

open Token (Reader)

/-! ### Characters put back -/

theorem lost_skip (s : Scanner) : s.skip.2.reader.lost = s.reader.lost := by
  fun_induction skip s with
  | case1 s hr => rfl
  | case2 s r hr ih => rw [ih, Reader.lost_of_read hr]
  | case3 s c r hr hc hs ih => rw [ih, Reader.lost_of_read hr]
  | case4 s c r hr => exact Reader.lost_of_read hr

theorem lost_number (s : Scanner) : s.number.2.reader.lost = s.reader.lost := by
  have hwhole := Reader.lost_takeWhile Char.isDigit s.reader
  unfold number
  dsimp only
  split
  · exact hwhole
  · rename_i c after hr
    have hafter : after.lost = s.reader.lost := (Reader.lost_of_read hr).trans hwhole
    split
    · exact (Reader.lost_takeWhile Char.isDigit after).trans hafter
    · exact (Reader.lost_unread (Reader.pending_of_read hr) c).trans hafter

theorem lost_word (s : Scanner) : s.word.2.reader.lost = s.reader.lost :=
  Reader.lost_takeWhile Token.isWordChar s.reader

/-- **A call puts characters back only into an empty cell.** -/
theorem lost_next (s : Scanner) : s.next.2.reader.lost = s.reader.lost := by
  have hskip := s.lost_skip
  unfold next
  split
  · rename_i s' hs
    rw [hs] at hskip
    exact hskip
  · rename_i c s' hs
    obtain ⟨-, hpending⟩ := chars_of_skip hs
    have hback : (s'.reader.unread c).lost = s.reader.lost := by
      rw [Reader.lost_unread hpending, ← hskip, hs]
    split
    · exact (lost_number _).trans hback
    · split
      · exact (lost_word _).trans hback
      · rw [hs] at hskip
        split <;> exact hskip

/-! ### One call -/

/-- The call gives a token other than the end of input, or an error. -/
def Finds (r : Except Diagnostic Token) : Prop :=
  ∀ t, r = .ok t → t.kind ≠ .endOfInput

/-- The line that a token or a diagnostic shows. -/
def shownLine : Except Diagnostic Token → Nat
  | .ok t => t.line
  | .error d => d.line

/-- What a call takes from the front of the text, and what it leaves. -/
structure Takes (s : Scanner) (taken : List Char) : Prop where
  chars : s.chars = taken ++ s.next.2.chars
  line : s.next.2.line = s.line + taken.count '\n'
  shown : shownLine s.next.1 = s.next.2.line
  progress : Finds s.next.1 → taken ≠ []

theorem exists_takes (s : Scanner) : ∃ taken, s.Takes taken := by
  obtain ⟨blanks, r, -, hsplit, hstop, hnext⟩ := s.next_skipped
  cases hr : r.chars with
  | nil =>
    have hend : s.next = (.ok ⟨.endOfInput, s.line + blanks.count '\n', none⟩,
        ⟨r, s.line + blanks.count '\n', s.file⟩) := hnext.trans (next_nil hr)
    refine ⟨blanks, ?_, ?_, ?_, ?_⟩
    · rw [hend]
      exact hsplit
    · rw [hend]
    · rw [hend]
      rfl
    · intro hfinds
      rw [hend] at hfinds
      exact absurd rfl (hfinds _ rfl)
  | cons c cs =>
    rw [hr] at hstop
    obtain ⟨text, rest, htext, hlongest, ha⟩ :=
      next_longest (s := ⟨r, s.line + blanks.count '\n', s.file⟩) (hstop c rfl) hr
    have hchars : s.chars = (blanks ++ text) ++ rest := by
      rw [List.append_assoc, ← htext, ← hr]
      exact hsplit
    have hline : s.line + (blanks ++ text).count '\n' = s.line + blanks.count '\n' := by
      rw [List.count_append, count_newline_of_longest hlongest, Nat.add_zero]
    -- token or error, the call leaves the same text on the same line
    obtain ⟨hrest, hleft, hshown⟩ : s.next.2.chars = rest ∧
        s.next.2.line = s.line + blanks.count '\n' ∧ shownLine s.next.1 = s.next.2.line := by
      cases ha with
      | token _ hgiven hrest =>
        rw [hnext, hgiven]
        exact ⟨hrest, rfl, rfl⟩
      | flaw _ hgiven hrest =>
        rw [hnext, hgiven]
        exact ⟨hrest, rfl, rfl⟩
    refine ⟨blanks ++ text, ?_, ?_, hshown, ?_⟩
    · rw [hrest, hchars]
    · rw [hleft, hline]
    · intro _ hnil
      obtain ⟨d, ds, hshape, -⟩ := hlongest.shape.exists_cons
      simp [hshape] at hnil

/-- The counter adds up the line ends that a call takes, as words are added. -/
theorem Takes.lineCounter {s : Scanner} {taken : List Char} (h : s.Takes taken) :
    s.next.2.lineCounter = s.lineCounter + UInt32.ofNat (taken.count '\n') := by
  unfold Scanner.lineCounter
  rw [h.line, UInt32.ofNat_add]

/-! ### Many calls -/

/-- After any number of calls the text is what they consumed and what is left, and the line ends among the
consumed characters were counted: by the number of the line, and by the counter as words are added. -/
theorem exists_consumed (s : Scanner) (k : Nat) :
    ∃ consumed, s.chars = consumed ++ (s.after k).chars ∧
      (s.after k).line = s.line + consumed.count '\n' ∧
      (s.after k).lineCounter = s.lineCounter + UInt32.ofNat (consumed.count '\n') := by
  induction k with
  | zero => exact ⟨[], rfl, rfl, (UInt32.add_zero _).symm⟩
  | succ k ih =>
    obtain ⟨consumed, hchars, hline, hcounter⟩ := ih
    obtain ⟨taken, htaken⟩ := (s.after k).exists_takes
    rw [after_succ]
    refine ⟨consumed ++ taken, ?_, ?_, ?_⟩
    · rw [hchars, htaken.chars, List.append_assoc]
    · rw [htaken.line, hline, List.count_append, Nat.add_assoc]
    · rw [htaken.lineCounter, hcounter, List.count_append, UInt32.ofNat_add, UInt32.add_assoc]

theorem lost_after (s : Scanner) (k : Nat) : (s.after k).reader.lost = s.reader.lost := by
  induction k with
  | zero => rfl
  | succ k ih => rw [after_succ, lost_next, ih]

/-- There are at most as many tokens and errors as characters. -/
theorem length_results_le (s : Scanner) : s.feed.results.length ≤ s.chars.length := by
  fun_induction feed s with
  | case1 s t s' hn hk => exact Nat.zero_le _
  | case2 s t s' hn hk ih =>
    rcases next_shorter hn with ⟨hend, -⟩ | hlt
    · cases hend
      exact absurd rfl hk
    · exact Nat.lt_of_le_of_lt ih hlt
  | case3 s d s' hn ih =>
    rcases next_shorter hn with ⟨hend, -⟩ | hlt
    · cases hend
    · exact Nat.lt_of_le_of_lt ih hlt

theorem finds_of_mem_feed {s : Scanner} {r : Except Diagnostic Token} (h : r ∈ s.feed.results) :
    Finds r := by
  intro t ht
  rw [ht] at h
  exact (genuine_of_mem_feed h).ne_endOfInput

/-- The scanner gives tokens and errors for `m` calls, and then the end of input for ever, on the same line
and without any further change. -/
structure Exhausts (s : Scanner) (m : Nat) : Prop where
  before : ∀ k < m, Finds (s.result k)
  result : ∀ k, m ≤ k → s.result k = .ok ⟨.endOfInput, (s.after (m + 1)).line, none⟩
  state : ∀ k, m ≤ k → s.after (k + 1) = s.after (m + 1)

theorem exhausts (s : Scanner) : s.Exhausts s.feed.results.length := by
  generalize hm : s.feed.results.length = m
  have hend : ∀ k, m ≤ k → s.result k = .ok s.feed.last := by
    intro k hk
    rw [result_eq, List.getElem?_eq_none (by omega)]
    rfl
  have hnext : (s.after m).next = (.ok s.feed.last, s.after (m + 1)) := by
    rw [after_succ, ← hend m (Nat.le_refl m)]
    rfl
  obtain ⟨hlast, hnil⟩ := next_end hnext rfl
  refine ⟨?_, ?_, ?_⟩
  · intro k hk
    rw [result_eq, List.getElem?_eq_getElem (by omega)]
    exact finds_of_mem_feed (List.getElem_mem _)
  · intro k hk
    rw [hend k hk, hlast]
  · intro k hk
    induction hk with
    | refl => rfl
    | step _ ih => rw [after_succ, ih, next_nil hnil]

/-! ### The line counter -/

theorem lineCounter_ofSource (source : String) (file : Option String) :
    (ofSource source file).lineCounter = 1 := rfl

/-- So few line ends that the counter does not start again: fewer than `2 ^ 32 - 1`. -/
def FewLines (source : String) : Prop :=
  source.toList.count '\n' + 1 < 2 ^ 32

section

variable {source : String} (h : FewLines source) (file : Option String) (k : Nat)

include h

/-- In a text with few line ends the counter holds the number of the line. -/
theorem toNat_lineCounter :
    ((ofSource source file).after k).lineCounter.toNat = ((ofSource source file).after k).line := by
  obtain ⟨consumed, hchars, hline, -⟩ := (ofSource source file).exists_consumed k
  have hcount : source.toList.count '\n' =
      consumed.count '\n' + ((ofSource source file).after k).chars.count '\n' := by
    rw [← List.count_append, ← hchars]
    rfl
  have hone : (ofSource source file).line = 1 := rfl
  unfold FewLines at h
  apply UInt32.toNat_ofNat_of_lt'
  show ((ofSource source file).after k).line < 2 ^ 32
  omega

/-- **A token or a diagnostic shows the line of the counter**, as long as the counter does not start again. -/
theorem shownLine_result :
    shownLine ((ofSource source file).result k) =
      ((ofSource source file).after (k + 1)).lineCounter.toNat := by
  obtain ⟨taken, htaken⟩ := ((ofSource source file).after k).exists_takes
  rw [toNat_lineCounter h, after_succ]
  exact htaken.shown

end

/-- The counter tells the line: it is one more than the number of line ends consumed, and it never goes
back. -/
structure CountsLines (s : Scanner) (source : String) : Prop where
  counter : ∀ k, ∃ consumed, source.toList = consumed ++ (s.after k).chars ∧
    (s.after k).lineCounter.toNat = 1 + consumed.count '\n'
  forward : ∀ k, (s.after k).lineCounter ≤ (s.after (k + 1)).lineCounter

theorem countsLines {source : String} (h : FewLines source) (file : Option String) :
    (ofSource source file).CountsLines source := by
  refine ⟨?_, ?_⟩
  · intro k
    obtain ⟨consumed, hchars, hline, -⟩ := (ofSource source file).exists_consumed k
    refine ⟨consumed, hchars, ?_⟩
    rw [toNat_lineCounter h, hline]
    rfl
  · intro k
    obtain ⟨taken, htaken⟩ := ((ofSource source file).after k).exists_takes
    rw [UInt32.le_iff_toNat_le, toNat_lineCounter h, toNat_lineCounter h, after_succ, htaken.line]
    omega

/-! ### Progress -/

/-- What calls of a scanner on a source text do, one after the other and errors included: no character is
lost, each call leaves an end of the text that was left, a shorter one if it gives a token or an error, the
line counter is one more than the line ends consumed, as words are added, and there are at most as many
tokens and errors as characters until nothing changes any more. -/
structure Progresses (s : Scanner) (source : String) : Prop where
  kept : ∀ k, (s.after k).reader.lost = []
  leaves : ∀ k, (s.after (k + 1)).chars <:+ (s.after k).chars
  shorter : ∀ k, Finds (s.result k) → (s.after (k + 1)).chars.length < (s.after k).chars.length
  counter : ∀ k, ∃ consumed, source.toList = consumed ++ (s.after k).chars ∧
    (s.after k).lineCounter = 1 + UInt32.ofNat (consumed.count '\n')
  ends : ∃ m ≤ source.length, s.Exhausts m

/-- **Every call makes progress until the text is used up**, whatever the calls before it gave. A character
that is put back is lost exactly if another one waits in the cell; none ever is. The line counter tells the
line of a text with fewer than `2 ^ 32 - 1` line ends, and of a longer one that line in a word. -/
theorem scanner_always_progresses (source : String) (file : Option String) :
    (∀ (r : Reader) (c : Char), (r.unread c).lost = r.lost ↔ r.pending = none) ∧
    (ofSource source file).Progresses source ∧
    (FewLines source → (ofSource source file).CountsLines source) := by
  refine ⟨fun r c => Reader.lost_unread_eq_iff, ?_, fun h => countsLines h file⟩
  generalize hs : ofSource source file = s
  have hchars : s.chars = source.toList := by rw [← hs]; rfl
  have hcounter : s.lineCounter = 1 := by rw [← hs, lineCounter_ofSource]
  have hlost : s.reader.lost = [] := by rw [← hs]; rfl
  refine ⟨?_, ?_, ?_, ?_, ?_⟩
  · intro k
    rw [lost_after, hlost]
  · intro k
    obtain ⟨taken, htaken⟩ := (s.after k).exists_takes
    rw [after_succ, htaken.chars]
    exact List.suffix_append _ _
  · intro k hfinds
    obtain ⟨taken, htaken⟩ := (s.after k).exists_takes
    have hpos : 0 < taken.length := List.length_pos_iff.mpr (htaken.progress hfinds)
    rw [after_succ, htaken.chars, List.length_append]
    omega
  · intro k
    obtain ⟨consumed, hsplit, -, hcounted⟩ := s.exists_consumed k
    rw [← hchars, ← hcounter]
    exact ⟨consumed, hsplit, hcounted⟩
  · refine ⟨s.feed.results.length, ?_, s.exhausts⟩
    rw [← String.length_toList, ← hchars]
    exact s.length_results_le

/-- After a malformed number and an unknown character the second call stands on the third line, and so does
the end of input. -/
theorem scanner_always_progresses_after_errors :
    let source := "1.\n\n# 7"
    let s := ofSource source none
    FewLines source ∧ (s.result 0).toOption = none ∧
    (s.result 1).toOption = none ∧ (s.after 1).lineCounter = 1 ∧ (s.after 2).lineCounter = 3 ∧
    s.Progresses source ∧ s.CountsLines source := by
  intro source s
  have hfew : FewLines source := by
    unfold FewLines
    decide
  obtain ⟨-, hprogress, hcounts⟩ := scanner_always_progresses source none
  refine ⟨hfew, ?_, ?_, ?_, ?_, hprogress, hcounts hfew⟩ <;> decide +kernel

/-! ### Where the counter starts again -/

def newlines (n : Nat) : String :=
  String.ofList (List.replicate n '\n')

theorem after_newlines (n : Nat) (file : Option String) :
    ((ofSource (newlines n) file).after 1).chars = [] ∧
      ((ofSource (newlines n) file).after 1).line = 1 + n := by
  have hblank : ∀ c ∈ List.replicate n '\n', Token.isSpace c = true := by
    intro c hc
    rw [List.eq_of_mem_replicate hc]
    rfl
  have hchars : (ofSource (newlines n) file).reader.chars = List.replicate n '\n' ++ [] := by
    rw [List.append_nil]
    exact String.toList_ofList
  obtain ⟨r, hnext, hr⟩ := next_blanks hblank hchars
  have hend := hnext.trans (next_nil hr)
  rw [after_succ, after, hend]
  refine ⟨hr, ?_⟩
  show 1 + (List.replicate n '\n').count '\n' = 1 + n
  rw [List.count_replicate_self]

/-- **The counter goes on with zero.** The first call for a text of `2 ^ 32 - 1` line ends consumes them all,
and then the counter, which was one, is zero: it is not one more than their number, and it went back. -/
theorem line_counter_starts_again :
    let source := newlines (2 ^ 32 - 1)
    let s := ofSource source none
    (s.after 1).chars = [] ∧ s.lineCounter = 1 ∧ (s.after 1).lineCounter = 0 ∧
      ¬ s.CountsLines source := by
  intro source s
  obtain ⟨hchars, hline⟩ := after_newlines (2 ^ 32 - 1) none
  have hzero : (s.after 1).lineCounter = 0 := by
    unfold lineCounter
    rw [hline]
    rfl
  refine ⟨hchars, rfl, hzero, ?_⟩
  intro h
  have hforward : (1 : UInt32) ≤ 0 := hzero ▸ h.forward 0
  exact absurd hforward (by decide)

end Scanner

end DeskCalc
