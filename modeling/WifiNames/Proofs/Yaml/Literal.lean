import WifiNames.Proofs.Yaml.Folding
import WifiNames.Proofs.Yaml.Line
import WifiNames.Yaml.Token.Block

namespace WifiNames.Yaml

/-!
# Literal blocks — reading what was written

The lines of a literal block stand after a margin of four spaces, and its empty lines are breaks
without any.  All breaks are read as they are, except that the header tells what becomes of those
at the end.

* `BlockText.Reads` — what is read so far, with the breaks at its end.
* `skipIndentation_blockLines`, `scanLines_blockLines` — reading on in the lines of a block.
* `exists_writeLiteral` — **a text written as a block reads back.**
-/

variable {b : BlockText} {c : Char} {t u v line next : Text} {m : Mark}

/-- A text as the lines of a block, where `fresh` tells that a break came last. -/
abbrev blockLines (fresh : Bool) (t : Text) : Text :=
  writeLines (fun c => [c]) fresh t

/-- The end of the last line of a block, unless the text has it. -/
def blockEnd (t : Text) : Text :=
  if t.getLast?.any isBreak then [] else ['\n']

/-! ### What is read so far -/

/-- The lines of a block that were read so far make up the text `t`. -/
structure BlockText.Reads (b : BlockText) (t : Text) : Prop where
  text_eq : b.reversed.reverse ++ (b.lineEnd ++ b.breaks) = t
  isBreak_of_mem : ∀ c ∈ b.lineEnd ++ b.breaks, isBreak c = true
  not_isBreak_head : ∀ c ∈ b.reversed.head?, isBreak c = false
  exists_lineEnd : b.reversed ≠ [] → ∃ c, b.lineEnd = [c]

/-- The text of a block, with the breaks at its end that are kept. -/
def BlockText.chomped (b : BlockText) : Chomping → Text
  | .strip => b.reversed.reverse
  | .clip => b.reversed.reverse ++ b.lineEnd
  | .keep => b.reversed.reverse ++ (b.lineEnd ++ b.breaks)

theorem BlockText.reads_start {breaks : Text} (h : ∀ c ∈ breaks, isBreak c = true) :
    BlockText.Reads ⟨[], [], breaks, false⟩ breaks :=
  ⟨rfl, h, nofun, fun hne => absurd rfl hne⟩

/-- One more line. -/
theorem BlockText.Reads.addLine (h : b.Reads t) (hne : line ≠ [])
    (hline : ∀ c ∈ line, isBreak c = false) (hc : isBreak c = true) {breaks : Text}
    (hbreaks : ∀ d ∈ breaks, isBreak d = true) :
    (b.addLine true line [c] breaks).Reads (t ++ (line ++ c :: breaks)) where
  text_eq := by
    simp [BlockText.addLine, ← h.text_eq]
  isBreak_of_mem := by
    intro d hd
    rcases List.mem_cons.1 hd with rfl | hd
    · exact hc
    · exact hbreaks d hd
  not_isBreak_head := by
    intro d hd
    have hlast : line.getLast? = some d := by
      cases hend : line.reverse with
      | nil => exact absurd (List.reverse_eq_nil_iff.1 hend) hne
      | cons e before =>
        rw [List.getLast?_eq_head?_reverse, hend]
        simpa [BlockText.addLine, hend] using hd
    exact hline d (List.mem_of_getLast? hlast)
  exists_lineEnd _ := ⟨c, rfl⟩

/-! ### The header -/

/-- What becomes of the breaks at the end of a text that is written as a block. -/
def chompingOf (t : Text) : Chomping :=
  match t.reverse with
  | [] => .strip
  | [last] => if isBreak last then .keep else .strip
  | last :: c :: _ => if isBreak last then if isBreak c then .keep else .clip else .strip

/-- How much further than what surrounds it a block is indented by its header, and zero where its
    first line shows it. -/
def incrementOf (t : Text) : Nat :=
  if t.head?.any fun c => c == ' ' || isBreak c then 2 else 0

theorem blockHeader_blockIndicators (t body : Text) :
    blockHeader (blockIndicators t ++ '\n' :: body)
      = .ok (chompingOf t, incrementOf t, '\n' :: body) := by
  unfold blockIndicators chompingOf incrementOf
  cases t.head?.any fun c => c == ' ' || isBreak c <;>
  · -- The indicators depend on the first character and on the last two.
    rcases t.reverse with _ | ⟨last, _ | ⟨c, before⟩⟩
    · rfl
    · cases hlast : isBreak last <;> simp [hlast] <;> rfl
    · cases hlast : isBreak last <;> cases hc : isBreak c <;> simp [hlast, hc] <;> rfl

/-- Of what was read, exactly the text is kept. -/
theorem BlockText.Reads.chomped_eq (h : b.Reads (t ++ blockEnd t)) :
    b.chomped (chompingOf t) = t := by
  obtain ⟨htext, hbreaks, hhead, hline⟩ := h
  have hreverse : (b.lineEnd ++ b.breaks).reverse ++ b.reversed
      = (blockEnd t).reverse ++ t.reverse := by
    simpa using congrArg List.reverse htext
  have hbreaks' : ∀ c ∈ (b.lineEnd ++ b.breaks).reverse, isBreak c = true :=
    fun c hc => hbreaks c (List.mem_reverse.1 hc)
  have hend : blockEnd t = if t.reverse.head?.any isBreak then [] else ['\n'] := by
    rw [blockEnd, List.getLast?_eq_head?_reverse]
  have hkeep : t.reverse.head?.any isBreak = true → b.chomped .keep = t := by
    intro hbreak
    rw [hend, if_pos hbreak, List.append_nil] at htext
    exact htext
  -- Where the text does not end in a break, the one after it is not part of it.
  have hstrip : t.reverse.head?.any isBreak = false → b.chomped .strip = t := by
    intro hbreak
    have hsplit : (b.lineEnd ++ b.breaks).reverse ++ b.reversed = ['\n'] ++ t.reverse := by
      rw [hreverse, hend, hbreak]
      rfl
    have hq : ∀ c ∈ t.reverse.head?, isBreak c = false := by
      intro c hc
      rw [Option.mem_def] at hc
      simpa [hc] using hbreak
    have hreversed := (span_unique hsplit hbreaks' hhead
      (List.forall_mem_singleton.2 rfl) hq).2
    exact List.reverse_eq_iff.2 hreversed
  unfold chompingOf
  rcases hcases : t.reverse with _ | ⟨last, _ | ⟨c, before⟩⟩
  · exact hstrip (by rw [hcases]; rfl)
  · cases hlast : isBreak last with
    | false => simpa [hlast] using hstrip (by rw [hcases]; simpa using hlast)
    | true => simpa [hlast] using hkeep (by rw [hcases]; simpa using hlast)
  · cases hlast : isBreak last with
    | false => simpa [hlast] using hstrip (by rw [hcases]; simpa using hlast)
    | true =>
      cases hc : isBreak c with
      | true => simpa [hlast, hc] using hkeep (by rw [hcases]; simpa using hlast)
      | false =>
        -- A single break at the end is that of the last line.
        have hsplit : (b.lineEnd ++ b.breaks).reverse ++ b.reversed = [last] ++ c :: before := by
          rw [hreverse, hend, hcases]
          simp [hlast]
        obtain ⟨hone, hreversed⟩ := span_unique hsplit hbreaks' hhead
          (by simpa using hlast) (by simpa using hc)
        obtain ⟨d, hd⟩ := hline (by rw [hreversed]; simp)
        have hnil : b.breaks = [] := by
          have hlength := congrArg List.length hone
          simp [hd] at hlength
          exact hlength
        have htext' := hkeep (by rw [hcases]; simpa using hlast)
        simp only [BlockText.chomped, hnil, List.append_nil] at htext'
        simpa [hlast, hc, BlockText.chomped] using htext'

/-! ### Lines -/

/-- Empty lines before a line are passed over. -/
theorem skipIndentation_breaks {breaks : Text} (h : ∀ c ∈ breaks, isBreak c = true)
    (widest : Nat) (u : Text) :
    ∀ (before : Text) (line : Nat), ∃ line',
      skipIndentation 4 widest before (breaks ++ u) ⟨line, 0, 0⟩
        = skipIndentation 4 widest (before ++ breaks) u ⟨line', 0, 0⟩ := by
  induction breaks with
  | nil =>
    intro before line
    exact ⟨line, by rw [List.nil_append, List.append_nil]⟩
  | cons c breaks ih =>
    intro before line
    have hc := h c List.mem_cons_self
    -- A break is neither of the two characters that indent.
    have hspace : c ≠ ' ' := by
      rintro rfl
      cases hc
    have htab : c ≠ '\t' := by
      rintro rfl
      cases hc
    obtain ⟨line', hskip⟩ := ih (fun d hd => h d (List.mem_cons_of_mem c hd)) (before ++ [c])
      (line + 1)
    refine ⟨line', ?_⟩
    rw [List.cons_append, skipIndentation]
    simp only [hspace, htab, hc, beq_iff_eq, Bool.and_eq_true, and_false, if_false, if_true,
      Nat.max_zero]
    rw [List.append_assoc] at hskip
    exact hskip

/-- The margin of a line is passed over, but no space after it. -/
theorem skipIndentation_margin (hc : isBreak c = false) (widest : Nat) (before u : Text)
    (line : Nat) :
    skipIndentation 4 widest before (margin ++ c :: u) ⟨line, 0, 0⟩
      = .ok (max widest 4, before, c :: u, ⟨line, 4, 4⟩) := by
  show skipIndentation 4 widest before (' ' :: ' ' :: ' ' :: ' ' :: c :: u) _ = _
  simp [skipIndentation, Mark.skip, hc]

/-- A first line that begins with neither a space nor a break shows how far it is indented. -/
theorem skipIndentation_margin_of_ne (hc : isBreak c = false) (hblank : isBlank c = false)
    (u : Text) (line : Nat) :
    skipIndentation 0 0 [] (margin ++ c :: u) ⟨line, 0, 0⟩
      = .ok (4, [], c :: u, ⟨line, 4, 4⟩) := by
  have hne : c ≠ ' ' ∧ c ≠ '\t' := by simpa [isBlank] using hblank
  show skipIndentation 0 0 [] (' ' :: ' ' :: ' ' :: ' ' :: c :: u) _ = _
  simp [skipIndentation, Mark.skip, hc, hne]

/-- The spaces before the line of a field are passed over. -/
theorem skipIndentation_replicate (hu : StartsName u) (widest : Nat) (before : Text)
    (line k : Nat) : ∀ n, n + k < 4 →
    skipIndentation 4 widest before (List.replicate k ' ' ++ u) ⟨line, n, n⟩
      = .ok (max widest (n + k), before, u, ⟨line, n + k, n + k⟩) := by
  induction k with
  | zero =>
    intro n hn
    cases u with
    | nil => rfl
    | cons c u =>
      have hc := hu c rfl
      have hne : c ≠ ' ' ∧ c ≠ '\t' := ⟨ne_of_isNameChar hc rfl, ne_of_isNameChar hc rfl⟩
      rw [List.replicate_zero, List.nil_append, skipIndentation]
      simp [isBreak_of_isNameChar hc, hne]
  | succ k ih =>
    intro n hn
    rw [List.replicate_succ, List.cons_append, skipIndentation]
    simp only [show n < 4 by omega, decide_true, Bool.or_true, beq_self_eq_true, Bool.and_self,
      if_true, Mark.skip]
    rw [ih (n + 1) (by omega), show n + 1 + k = n + (k + 1) by omega]

theorem skipIndentation_line (hnext : IsLine next) (widest : Nat) (before : Text) (line : Nat) :
    skipIndentation 4 widest before next ⟨line, 0, 0⟩
      = .ok (max widest (indentation next), before, content next,
        ⟨line, indentation next, indentation next⟩) := by
  have hle := hnext.indentation_le
  have hskip := skipIndentation_replicate hnext.startsName widest before line (indentation next) 0
    (by omega)
  rwa [replicate_append_content, Nat.zero_add] at hskip

/-- Where the lines of a block are over, nothing more of it is read. -/
theorem scanLines_line (hnext : IsLine next) (b : BlockText) (fuel line : Nat) :
    scanLines true 4 b fuel (content next) ⟨line, indentation next, indentation next⟩
      = .ok (b, content next, ⟨line, indentation next, indentation next⟩) := by
  have hle := hnext.indentation_le
  cases fuel with
  | zero => rfl
  | succ fuel =>
    rw [scanLines, if_neg]
    simp only [Bool.and_eq_true, beq_iff_eq, not_and]
    omega

/-- The beginning of a text up to its first break is written as it is. -/
theorem blockLines_append (hline : ∀ c ∈ line, isBreak c = false) (t : Text) :
    blockLines false (line ++ t) = line ++ blockLines false t := by
  induction line with
  | nil => rfl
  | cons c line ih =>
    rw [List.cons_append, blockLines, writeLines, if_neg (by simp [hline c List.mem_cons_self])]
    exact congrArg (c :: ·) (ih fun d hd => hline d (List.mem_cons_of_mem c hd))

/-- Empty lines are written as they are. -/
theorem blockLines_breaks {breaks : Text} (h : ∀ c ∈ breaks, isBreak c = true) (t : Text) :
    blockLines true (breaks ++ t) = breaks ++ blockLines true t := by
  induction breaks with
  | nil => rfl
  | cons c breaks ih =>
    rw [List.cons_append, blockLines, writeLines, if_pos (h c List.mem_cons_self)]
    exact congrArg (c :: ·) (ih fun d hd => h d (List.mem_cons_of_mem c hd))

/-- A line that is not empty stands after the margin. -/
theorem blockLines_margin (hc : isBreak c = false) (t : Text) :
    blockLines true (c :: t) = margin ++ blockLines false (c :: t) := by
  simp [blockLines, writeLines, hc]

theorem blockEnd_append (hne : v ≠ []) (t : Text) : blockEnd (t ++ v) = blockEnd v := by
  obtain ⟨c, hc⟩ := Option.ne_none_iff_exists'.1 fun h => hne (List.getLast?_eq_none_iff.1 h)
  rw [blockEnd, blockEnd, List.getLast?_append, hc, Option.some_or]

theorem blockEnd_breaks {breaks : Text} (hne : breaks ≠ []) (h : ∀ c ∈ breaks, isBreak c = true) :
    blockEnd (t ++ breaks) = [] := by
  obtain ⟨c, hc⟩ := Option.ne_none_iff_exists'.1 fun h => hne (List.getLast?_eq_none_iff.1 h)
  rw [blockEnd_append hne, blockEnd, hc, if_pos]
  exact h c (List.mem_of_getLast? hc)

theorem blockEnd_line (h : ∀ c ∈ line, isBreak c = false) : blockEnd line = ['\n'] := by
  rw [blockEnd, if_neg]
  simp only [Option.any_eq_true, not_exists, not_and]
  intro c hc
  simp [h c (List.mem_of_getLast? hc)]

/-- What comes before a line of the text, or after its last one, is passed over: the breaks of
    empty lines are kept. -/
theorem skipIndentation_blockLines {breaks : Text} (h : ∀ c ∈ breaks, isBreak c = true)
    (widest : Nat) (before : Text) (line : Nat) (hv : ∀ c ∈ v.head?, isBreak c = false)
    (hnext : IsLine next) (hu : v = [] → u = next) :
    ∃ widest' rest m, skipIndentation 4 widest before (blockLines true (breaks ++ v) ++ u)
        ⟨line, 0, 0⟩ = .ok (widest', before ++ breaks, rest, m) ∧
      ((v = [] ∧ ∃ line', rest = content next ∧
          m = ⟨line', indentation next, indentation next⟩) ∨
        v ≠ [] ∧ m.column = 4 ∧ rest = blockLines false v ++ u) := by
  obtain ⟨line', hskip⟩ := skipIndentation_breaks h widest (blockLines true v ++ u) before line
  rw [blockLines_breaks h, List.append_assoc, hskip]
  cases v with
  | nil =>
    obtain rfl := hu rfl
    rw [show blockLines true [] = [] from rfl, List.nil_append, skipIndentation_line hnext]
    exact ⟨_, _, _, rfl, Or.inl ⟨rfl, line', rfl, rfl⟩⟩
  | cons c v =>
    have hc : isBreak c = false := hv c rfl
    have hline : blockLines false (c :: v) = c :: blockLines false v := by
      simp [blockLines, writeLines, hc]
    rw [blockLines_margin hc, List.append_assoc, hline, List.cons_append, skipIndentation_margin hc]
    exact ⟨_, _, _, rfl, Or.inr ⟨by simp, rfl, rfl⟩⟩

/-- Reading one line, and the empty lines after it. -/
theorem scanLines_append {breaks rest : Text} {m' : Mark} {widest : Nat}
    (hline : ∀ c ∈ line, isBreak c = false) (hc : isBreak c = true) (hm : m.column = 4)
    (hskip : skipIndentation 4 0 [] u (m.passAll line).newLine = .ok (widest, breaks, rest, m'))
    (b : BlockText) (fuel : Nat) :
    scanLines true 4 b (fuel + 1) (line ++ c :: u) m
      = scanLines true 4 (b.addLine true line [c] breaks) fuel rest m' := by
  -- The line ends at its break.
  obtain ⟨htake, hdrop⟩ : (line ++ c :: u).takeWhile (!isBreak ·) = line ∧
      (line ++ c :: u).dropWhile (!isBreak ·) = c :: u :=
    span_append (fun d hd => by simp [hline d hd]) (by simpa using hc)
  rw [scanLines, if_pos (by simp [hm]), htake, hdrop]
  simp only [hskip]
  rfl

/-- Reading on in the lines of a block, where the first of them begins. -/
theorem scanLines_blockLines (hnext : IsLine next) (fuel : Nat) :
    ∀ (v t : Text) (b : BlockText) (m : Mark), b.Reads t → v.length < fuel → v ≠ [] →
      (∀ c ∈ v.head?, isBreak c = false) → m.column = 4 →
      ∃ b' line, b'.Reads (t ++ (v ++ blockEnd v)) ∧
        scanLines true 4 b fuel (blockLines false v ++ (blockEnd v ++ next)) m
          = .ok (b', content next, ⟨line, indentation next, indentation next⟩) := by
  induction fuel with
  | zero =>
    intro v t b m _ hfuel
    omega
  | succ fuel ih =>
    intro v t b m hb hfuel hne hhead hm
    -- The next line, and what begins with the break behind it.
    obtain ⟨line, after, rfl, hline, hafter⟩ := exists_span (!isBreak ·) v
    simp only [Bool.not_eq_true', Bool.not_eq_false'] at hline hafter
    have hlinene : line ≠ [] := by
      rintro rfl
      cases after with
      | nil => exact hne rfl
      | cons c after => exact absurd (hafter c rfl) (by simp [hhead c rfl])
    simp only [blockLines_append hline, List.append_assoc]
    cases after with
    | nil =>
      -- The line is the last one, and its break is not part of the text.
      have hend : blockEnd (line ++ []) = ['\n'] := by
        rw [List.append_nil, blockEnd_line hline]
      have hfeed : isBreak '\n' = true := rfl
      have hread := scanLines_append hline hfeed hm
        (skipIndentation_line hnext 0 [] ((m.passAll line).line + 1)) b fuel
      refine ⟨b.addLine true line ['\n'] [], (m.passAll line).line + 1, ?_, ?_⟩
      · rw [hend]
        exact hb.addLine hlinene hline hfeed nofun
      · rw [hend]
        exact hread.trans (scanLines_line hnext _ _ _)
    | cons c after =>
      have hc : isBreak c = true := hafter c rfl
      -- Behind the break come empty lines, and then the text goes on or is over.
      obtain ⟨breaks, w, rfl, hbreaks, hw⟩ := exists_span isBreak after
      have hend : w = [] → blockEnd (line ++ c :: (breaks ++ w)) ++ next = next := by
        rintro rfl
        rw [List.append_nil, blockEnd_breaks (by simp) (by simpa [hc] using hbreaks),
          List.nil_append]
      obtain ⟨widest', rest, m', hskip, hcases⟩ := skipIndentation_blockLines hbreaks 0 []
        ((m.passAll line).line + 1) hw hnext hend
      have hread := scanLines_append hline hc hm hskip b fuel
      have hb' := hb.addLine hlinene hline hc hbreaks
      have hinput : blockLines false (c :: (breaks ++ w)) = c :: blockLines true (breaks ++ w) := by
        rw [blockLines, writeLines, if_pos hc]
      simp only [List.nil_append] at hread
      simp only [hinput, List.cons_append, List.append_assoc]
      rw [hread]
      rcases hcases with ⟨rfl, line', rfl, rfl⟩ | ⟨hwne, hm', rfl⟩
      · refine ⟨_, line', ?_, scanLines_line hnext _ _ _⟩
        rw [List.append_nil, blockEnd_breaks (by simp) (by simpa [hc] using hbreaks),
          List.append_nil, List.append_nil]
        exact hb'
      · have hblock : blockEnd (line ++ c :: (breaks ++ w)) = blockEnd w := by
          rw [← List.cons_append, ← List.append_assoc, blockEnd_append hwne]
        rw [hblock]
        have hlength : w.length < fuel := by
          simp only [List.length_append, List.length_cons] at hfuel
          omega
        obtain ⟨b', line', hb'', hread'⟩ := ih w _ _ m' hb' hlength hwne hw hm'
        refine ⟨b', line', ?_, hread'⟩
        simpa using hb''

/-! ### Whole blocks -/

theorem length_le_length_writeLines {write : Char → Text} (hwrite : ∀ c, write c ≠ []) (t : Text) :
    ∀ fresh, t.length ≤ (writeLines write fresh t).length := by
  induction t with
  | nil => exact fun _ => Nat.le_refl 0
  | cons c t ih =>
    intro fresh
    have hpos := List.length_pos_iff.2 (hwrite c)
    have htrue := ih true
    have hfalse := ih false
    rw [writeLines]
    split <;> simp only [List.length_cons, List.length_append] <;> omega

/-- How far the lines are indented is known when the first of them begins: from the header, or else
    from the line. -/
theorem exists_skipIndentation (hspecial : hasSpecial t = false) (hne : t ≠ [])
    (hnext : IsLine next) (line : Nat) :
    ∃ widest breaks v rest m,
      skipIndentation (if incrementOf t = 0 then 0 else 4) 0 [] (blockLines true t
          ++ (blockEnd t ++ next)) ⟨line, 0, 0⟩ = .ok (widest, breaks, rest, m) ∧
      (incrementOf t = 0 → widest = 4) ∧ t = breaks ++ v ∧ (∀ c ∈ breaks, isBreak c = true) ∧
      (∀ c ∈ v.head?, isBreak c = false) ∧
      ((v = [] ∧ ∃ line', rest = content next ∧
          m = ⟨line', indentation next, indentation next⟩) ∨
        v ≠ [] ∧ m.column = 4 ∧ rest = blockLines false v ++ (blockEnd v ++ next)) := by
  -- Either the first line shows how far it is indented, or the header says so.
  by_cases hzero : incrementOf t = 0
  · obtain ⟨c, t, rfl⟩ := List.exists_cons_of_ne_nil hne
    have hc : c ≠ ' ' ∧ isBreak c = false := by simpa [incrementOf] using hzero
    have hprint : isPrintable c = true := by
      simpa using List.any_eq_false.1 hspecial c List.mem_cons_self
    have hblank : isBlank c = false := by
      rw [← Bool.not_eq_true, isBlank_iff hprint]
      exact hc.1
    have hline : blockLines false (c :: t) = c :: blockLines false t := by
      simp [blockLines, writeLines, hc.2]
    have hskip := skipIndentation_margin_of_ne hc.2 hblank
      (blockLines false t ++ (blockEnd (c :: t) ++ next)) line
    rw [if_pos hzero, blockLines_margin hc.2, hline, List.append_assoc, List.cons_append]
    refine ⟨_, _, c :: t, _, _, hskip, fun _ => rfl, rfl, List.forall_mem_nil _,
      by simpa using hc.2, Or.inr ?_⟩
    rw [hline]
    exact ⟨by simp, rfl, rfl⟩
  · obtain ⟨breaks, v, rfl, hbreaks, hv⟩ := exists_span isBreak t
    have hend : v = [] → blockEnd (breaks ++ v) ++ next = next := by
      rintro rfl
      rw [List.append_nil] at hne
      rw [List.append_nil, ← List.nil_append breaks, blockEnd_breaks hne hbreaks, List.nil_append]
    obtain ⟨widest, rest, m, hskip, hcases⟩ := skipIndentation_blockLines hbreaks 0 [] line hv
      hnext hend
    rw [if_neg hzero]
    refine ⟨widest, breaks, v, rest, m, hskip, fun h => absurd h hzero, rfl, hbreaks, hv, ?_⟩
    rcases hcases with hnil | ⟨hvne, hm, hrest⟩
    · exact Or.inl hnil
    · exact Or.inr ⟨hvne, hm, by rw [hrest, blockEnd_append hvne]⟩

/-- From there on, the lines of the text are read. -/
theorem exists_scanLines {breaks rest : Text} (hne : breaks ++ v ≠ [])
    (hbreaks : ∀ c ∈ breaks, isBreak c = true) (hv : ∀ c ∈ v.head?, isBreak c = false)
    (hnext : IsLine next)
    (hcases : (v = [] ∧ ∃ line, rest = content next ∧
        m = ⟨line, indentation next, indentation next⟩) ∨
      v ≠ [] ∧ m.column = 4 ∧ rest = blockLines false v ++ (blockEnd v ++ next)) :
    ∃ b line, BlockText.Reads b (breaks ++ v ++ blockEnd (breaks ++ v)) ∧
      scanLines true 4 ⟨[], [], breaks, false⟩ (rest.length + 1) rest m
        = .ok (b, content next, ⟨line, indentation next, indentation next⟩) := by
  have hstart := BlockText.reads_start hbreaks
  rcases hcases with ⟨rfl, line, rfl, rfl⟩ | ⟨hvne, hm, rfl⟩
  · refine ⟨_, line, ?_, scanLines_line hnext _ _ _⟩
    rw [List.append_nil] at hne ⊢
    have hend : blockEnd ([] ++ breaks) = [] := blockEnd_breaks hne hbreaks
    rw [List.nil_append] at hend
    rwa [hend, List.append_nil]
  · have hlength : v.length < (blockLines false v ++ (blockEnd v ++ next)).length + 1 := by
      have hle : v.length ≤ (blockLines false v).length :=
        length_le_length_writeLines (by simp) v false
      simp only [List.length_append]
      omega
    obtain ⟨b, line, hb, hread⟩ := scanLines_blockLines hnext _ v breaks _ m hstart hlength hvne
      hv hm
    refine ⟨b, line, ?_, hread⟩
    rwa [blockEnd_append hvne, List.append_assoc]

/-- A text that is written as a block reads back. -/
theorem exists_writeLiteral (hspecial : hasSpecial t = false) (hne : t ≠ []) :
    ∃ body, writeLiteral t = '|' :: body ∧ ∀ (next : Text) (m : Mark), IsLine next →
      ∃ line, scanBlock true 2 (body ++ (blockEnd t ++ next)) m
        = .ok (t, content next, ⟨line, indentation next, indentation next⟩) := by
  refine ⟨blockIndicators t ++ '\n' :: blockLines true t, rfl, fun next m hnext => ?_⟩
  have hgiven : (if incrementOf t = 0 then 0 else (max 2 0 : Int).toNat + incrementOf t)
      = if incrementOf t = 0 then 0 else 4 := by
    unfold incrementOf
    split <;> rfl
  rw [List.append_assoc, List.cons_append, scanBlock, blockHeader_blockIndicators]
  simp only [bind, Except.bind, hgiven]
  -- Where the header stands does not matter.
  generalize m.passAll _ = m₀
  obtain ⟨widest, breaks, v, rest, m₁, hskip, hwidest, hsplit, hbreaks, hv, hcases⟩ :=
    exists_skipIndentation hspecial hne hnext (m₀.line + 1)
  have hindent : (if (if incrementOf t = 0 then 0 else 4) = 0 then
      max (max widest (2 + 1 : Int).toNat) 1 else if incrementOf t = 0 then 0 else 4) = 4 := by
    by_cases hzero : incrementOf t = 0
    · rw [hwidest hzero]
      simp [hzero]
    · simp [hzero]
  obtain ⟨b, line, hb, hread⟩ := exists_scanLines (hsplit ▸ hne) hbreaks hv hnext hcases
  rw [← hsplit] at hb
  refine ⟨line, ?_⟩
  rw [Mark.newLine, hskip]
  simp only [hindent]
  rw [hread]
  -- All breaks at the end were read; the header tells which of them are kept.
  have htext := hb.chomped_eq
  cases hchomping : chompingOf t <;> rw [hchomping, BlockText.chomped] at htext
  · exact congrArg (fun u => Except.ok (u, _, _)) ((List.append_nil _).trans htext)
  · exact congrArg (fun u => Except.ok (u, _, _)) htext
  · exact congrArg (fun u => Except.ok (u, _, _)) htext

theorem isPrintable_writeLiteral (ht : ∀ c ∈ t, isPrintable c = true) :
    ∀ d ∈ writeLiteral t, isPrintable d = true := by
  have hindicators : ∀ d ∈ blockIndicators t, isPrintable d = true := by
    unfold blockIndicators
    cases t.head?.any fun c => c == ' ' || isBreak c <;>
    · rcases t.reverse with _ | ⟨last, _ | ⟨c, before⟩⟩
      · exact List.all_eq_true.1 rfl
      · cases hlast : isBreak last <;> simp only [hlast] <;> exact List.all_eq_true.1 rfl
      · cases hlast : isBreak last <;> cases hc : isBreak c <;> simp only [hlast, hc] <;>
          exact List.all_eq_true.1 rfl
  intro d hd
  simp only [writeLiteral, List.cons_append, List.mem_cons, List.mem_append] at hd
  rcases hd with rfl | hd | rfl | hd
  · rfl
  · exact hindicators d hd
  · rfl
  · refine isPrintable_writeLines ht ?_ true d hd
    intro c hc d hd
    rw [List.mem_singleton.1 hd]
    exact ht c hc

end WifiNames.Yaml
