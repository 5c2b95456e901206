import Mathlib.Algebra.Group.Nat.Defs
import WifiNames.Proofs.Yaml.Folding
import WifiNames.Yaml.Token.Quoted

namespace WifiNames.Yaml

/-!
# Quoted scalars — reading what was written

* `scanSingle_writeLines` — the lines of a text between single quotes.
* `scanDouble_upperHex`, `scanDouble_escape` — an escape stands for its character.
* `exists_writeSingle`, `exists_writeDouble` — **a quoted text reads back.**
-/

variable {f : Folding} {last c : Char} {t rest : Text} {m : Mark}

/-! ### Single quotes -/

theorem scanSingle_break (hc : isBreak c = true) (f : Folding) (rest : Text) (m : Mark) :
    scanSingle f (c :: rest) m = scanSingle (f.space c) rest m.newLine := by
  rw [scanSingle.eq_def]
  simp [hc]

theorem scanSingle_blank (hc : isBlank c = true) (f : Folding) (rest : Text) (m : Mark) :
    scanSingle f (c :: rest) m = scanSingle (f.space c) rest (m.skip 1) := by
  rw [scanSingle.eq_def]
  simp [hc, isBreak_of_isBlank hc]

theorem scanSingle_close (hm : 0 < m.column) (hrest : rest.head? ≠ some '\'') (f : Folding) :
    scanSingle f ('\'' :: rest) m = .ok (f.join.text, rest, m.skip 1) := by
  have hcolumn : (m.column == 0) = false := beq_false_of_ne (by omega)
  rw [scanSingle.eq_def]
  simp only [show isBreak '\'' = false from rfl, show isBlank '\'' = false from rfl, hcolumn,
    Bool.false_and, Bool.false_eq_true, if_false, beq_self_eq_true, if_true]
  -- A second quote would make it the form of a quote.
  split
  · exact absurd rfl hrest
  · rfl

/-- The form of a character that counts stands for the character. -/
theorem scanSingle_writeSingleChar (hbreak : isBreak c = false) (hblank : isBlank c = false)
    (hm : 0 < m.column) (f : Folding) (rest : Text) :
    ∃ m', 0 < m'.column ∧
      scanSingle f (writeSingleChar c ++ rest) m = scanSingle (f.push c) rest m' := by
  have hcolumn : (m.column == 0) = false := beq_false_of_ne (by omega)
  -- A quote is written twice.
  by_cases hquote : c = '\''
  · subst hquote
    refine ⟨m.skip 2, by simp [Mark.skip], ?_⟩
    show scanSingle f ('\'' :: '\'' :: rest) m = _
    rw [scanSingle.eq_def]
    simp [hbreak, hblank, hcolumn]
  · refine ⟨m.pass c, by simp [Mark.pass], ?_⟩
    rw [writeSingleChar, if_neg (by simpa using hquote), List.singleton_append, scanSingle.eq_def]
    simp [hbreak, hblank, hcolumn, hquote]

/-- The spaces before the text of a line are passed over. -/
theorem scanSingle_margin (hended : f.ended = true) (t : Text) (m : Mark) :
    scanSingle f (margin ++ t) m = scanSingle f t (m.skip 4) := by
  show scanSingle f (' ' :: ' ' :: ' ' :: ' ' :: t) m = _
  iterate 4 rw [scanSingle_blank rfl, Folding.space_of_ended hended]
  rfl

/-- Where a line has just begun, its text comes after the margin. -/
theorem exists_scanSingle_margin (hf : f.EndsIn last) (hm : isBreak last = false → 0 < m.column) :
    ∃ m', 0 < m'.column ∧ ∀ u,
      scanSingle f ((if isBreak last then margin else []) ++ u) m = scanSingle f u m' := by
  by_cases hlast : isBreak last = true
  · simp only [hlast, if_true]
    exact ⟨m.skip 4, by simp [Mark.skip], fun u => scanSingle_margin (hf.ended_eq.trans hlast) u m⟩
  · simp only [hlast]
    exact ⟨m, hm (by simpa using hlast), fun u => rfl⟩

/-- Reading on in the lines of a text between single quotes, after the character `last`. -/
theorem scanSingle_writeLines (hrest : rest.head? ≠ some '\'') (t : Text) :
    ∀ (f : Folding) (last : Char) (m : Mark), f.EndsIn last →
      (isBreak last = false → 0 < m.column) →
      (∀ c ∈ t, isPrintable c = true ∧ c ≠ '\n') →
      hasSpaceBeforeBreak (last :: t) = false → hasSpaceAfterBreak (last :: t) = false →
      ∃ m', scanSingle f (writeLines writeSingleChar (isBreak last) t
          ++ ((if isBreak (t.getLast?.getD last) then margin else []) ++ '\'' :: rest)) m
        = .ok (f.join.text ++ t, rest, m') := by
  induction t with
  | nil =>
    intro f last m hf hm _ _ _
    obtain ⟨m₀, hm₀, hskip⟩ := exists_scanSingle_margin hf hm
    rw [List.append_nil]
    show ∃ m', scanSingle f ((if isBreak last then margin else []) ++ '\'' :: rest) m = _
    rw [hskip]
    exact ⟨_, scanSingle_close hm₀ hrest f⟩
  | cons c t ih =>
    intro f last m hf hm hchars hbefore hafter
    obtain ⟨hprint, hne⟩ := hchars c List.mem_cons_self
    have hchars' := fun d hd => hchars d (List.mem_cons_of_mem c hd)
    rw [hasSpaceBeforeBreak_cons_cons, Bool.or_eq_false_iff] at hbefore
    rw [hasSpaceAfterBreak_cons_cons, Bool.or_eq_false_iff] at hafter
    rw [List.getLast?_cons, Option.getD_some]
    by_cases hbreak : isBreak c = true
    · -- A break is written as it is, and ends the line.
      have hlast : last ≠ ' ' := by
        rintro rfl
        simp [hbreak] at hbefore
      obtain ⟨hf', htext⟩ := hf.break hlast hbreak hne
      obtain ⟨m', hm'⟩ := ih (f.space c) c m.newLine hf' (by simp [hbreak]) hchars'
        hbefore.2 hafter.2
      rw [hbreak, htext, List.append_assoc] at hm'
      rw [writeLines, if_pos hbreak, List.cons_append, scanSingle_break hbreak]
      exact ⟨m', hm'⟩
    · -- Any other character stands after the margin, if its line has just begun.
      rw [Bool.not_eq_true] at hbreak
      obtain ⟨m₀, hm₀, hskip⟩ := exists_scanSingle_margin hf hm
      rw [writeLines, if_neg (by simp [hbreak]), List.append_assoc, List.append_assoc, hskip]
      by_cases hblank : isBlank c = true
      · obtain rfl := (isBlank_iff hprint).1 hblank
        have hlast : isBreak last = false := by simpa using hafter.1
        obtain ⟨hf', htext⟩ := hf.space hlast
        obtain ⟨m', hm'⟩ := ih (f.space ' ') ' ' (m₀.skip 1) hf' (by simp [Mark.skip]) hchars'
          hbefore.2 hafter.2
        rw [hbreak, htext, List.append_assoc] at hm'
        refine ⟨m', ?_⟩
        show scanSingle f (' ' :: _) m₀ = _
        rw [scanSingle_blank hblank]
        exact hm'
      · rw [Bool.not_eq_true] at hblank
        obtain ⟨m₁, hm₁, hchar⟩ := scanSingle_writeSingleChar hbreak hblank hm₀ f
          (writeLines writeSingleChar false t
            ++ ((if isBreak (t.getLast?.getD c) then margin else []) ++ '\'' :: rest))
        obtain ⟨m', hm'⟩ := ih (f.push c) c m₁ (f.endsIn_push hbreak) (fun _ => hm₁) hchars'
          hbefore.2 hafter.2
        rw [hbreak, Folding.join_text_push, List.append_assoc] at hm'
        rw [hchar]
        exact ⟨m', hm'⟩

/-- A text between single quotes, with the opening quote as the character before it. -/
theorem writeSingle_eq (t : Text) :
    writeSingle t = '\'' :: (writeLines writeSingleChar (isBreak '\'') t
      ++ (if isBreak (t.getLast?.getD '\'') then margin else []) ++ ['\'']) := by
  have hlast : t.getLast?.any isBreak = isBreak (t.getLast?.getD '\'') := by
    cases t.getLast? <;> rfl
  rw [writeSingle, hlast]
  rfl

/-- A text between single quotes reads back.  The line feeds are left to other styles. -/
theorem exists_writeSingle (hallows : allowsSingle t = true) (hfeed : '\n' ∉ t) :
    ∃ body, writeSingle t = '\'' :: body ∧ ∀ (rest : Text) (m : Mark), rest.head? ≠ some '\'' →
      0 < m.column → ∃ m', scanSingle .empty (body ++ rest) m = .ok (t, rest, m') := by
  simp only [allowsSingle, Bool.not_eq_true', Bool.or_eq_false_iff] at hallows
  obtain ⟨⟨hafter, hbefore⟩, hspecial⟩ := hallows
  have hchars : ∀ c ∈ t, isPrintable c = true ∧ c ≠ '\n' := by
    intro c hc
    refine ⟨?_, fun hne => hfeed (hne ▸ hc)⟩
    simpa using List.any_eq_false.1 hspecial c hc
  refine ⟨_, writeSingle_eq t, fun rest m hrest hm => ?_⟩
  -- The opening quote counts as the character that came last.
  have hquote : '\'' ≠ ' ' := by decide
  obtain ⟨m', hm'⟩ := scanSingle_writeLines hrest t .empty '\'' m (Folding.endsIn_empty rfl)
    (fun _ => hm) hchars ((hasSpaceBeforeBreak_cons hquote t).trans hbefore)
    ((hasSpaceAfterBreak_cons rfl t).trans hafter)
  refine ⟨m', ?_⟩
  rw [List.append_assoc, List.append_assoc]
  exact hm'

/-! ### Double quotes -/

theorem value?_upperDigit : ∀ {n : Nat}, n < 16 → Hex.value? (upperDigit n) = some n := by
  decide

/-- Reading on in the digits of an escape, with `k` more of them to come. -/
theorem scanDouble_upperHex (f : Folding) (n width : Nat) :
    ∀ (k sum : Nat) (rest : Text) (m : Mark), 0 < k → ∃ m', m'.column = m.column + width ∧
      scanDouble f (some (width + k, sum)) (upperHex n width ++ rest) m
        = scanDouble f (some (k, sum * 16 ^ width + n % 16 ^ width)) rest m' := by
  induction width generalizing n with
  | zero =>
    intro k sum rest m _
    refine ⟨m, rfl, ?_⟩
    simp [upperHex, Nat.mod_one]
  | succ width ih =>
    intro k sum rest m hk
    obtain ⟨m', hm', hread⟩ := ih (n / 16) (k + 1) sum (upperDigit (n % 16) :: rest) m (by omega)
    refine ⟨m'.skip 1, by simp [Mark.skip, hm']; omega, ?_⟩
    have hvalue : Hex.value? (upperDigit (n % 16)) = some (n % 16) :=
      value?_upperDigit (Nat.mod_lt n (by decide))
    have hmore : (k + 1 == 1) = false := beq_false_of_ne (by omega)
    have hsum : 16 * (sum * 16 ^ width + n / 16 % 16 ^ width) + n % 16
        = sum * 16 ^ (width + 1) + n % 16 ^ (width + 1) := by
      -- The first digits are those of the quotient, and the last one is the remainder.
      have hmod : n % 16 ^ (width + 1) = n % 16 + 16 * (n / 16 % 16 ^ width) := by
        rw [Nat.pow_succ, Nat.mul_comm, Nat.mod_mul]
      rw [hmod, Nat.pow_succ, ← Nat.mul_assoc]
      omega
    rw [upperHex, List.append_assoc, List.singleton_append,
      show width + 1 + k = width + (k + 1) by omega, hread]
    rw [scanDouble.eq_def]
    simp [hvalue, hmore, hsum]

/-- An escape is a letter that stands for the character, or one that announces its number. -/
theorem escapeCode_eq_or (c : Char) :
    (∃ e, escapeCode c = [e] ∧ (isPrintable e = true ∧ isBreak e = false) ∧
        escaped? e = some c) ∨
      ∃ e width, escapeCode c = e :: upperHex c.toNat (width + 1) ∧ c.toNat < 16 ^ (width + 1) ∧
        (isPrintable e = true ∧ isBreak e = false) ∧ escaped? e = none ∧
        codeLength? e = some (width + 1) := by
  unfold escapeCode
  split
  case h_16 =>
    refine Or.inr ?_
    -- The number is given in two, four or eight digits, and eight are enough for any character.
    have hvalid : c.toNat.isValidChar := c.valid
    unfold Nat.isValidChar at hvalid
    by_cases h2 : c.toNat ≤ 0xFF
    · exact ⟨'x', 1, by simp only [h2, if_true], by omega, ⟨rfl, rfl⟩, rfl, rfl⟩
    · by_cases h4 : c.toNat ≤ 0xFFFF
      · exact ⟨'u', 3, by simp only [h2, h4, if_true, if_false], by omega, ⟨rfl, rfl⟩, rfl, rfl⟩
      · exact ⟨'U', 7, by simp only [h2, h4, if_false], by omega, ⟨rfl, rfl⟩, rfl, rfl⟩
  all_goals exact Or.inl ⟨_, rfl, ⟨rfl, rfl⟩, rfl⟩

theorem charOf?_toNat (c : Char) : charOf? c.toNat = some c := by
  have hvalid : c.toNat.isValidChar := c.valid
  rw [charOf?, if_pos hvalid, Char.ofNat_toNat]

/-- An escape stands for its character. -/
theorem scanDouble_escape (hm : 0 < m.column) (f : Folding) (c : Char) (rest : Text) :
    ∃ m', 0 < m'.column ∧
      scanDouble f none ('\\' :: escapeCode c ++ rest) m = scanDouble (f.push c) none rest m' := by
  have hcolumn : (m.column == 0) = false := beq_false_of_ne (by omega)
  have hslash : isBreak '\\' = false ∧ isBlank '\\' = false := ⟨rfl, rfl⟩
  rcases escapeCode_eq_or c with
    ⟨e, he, ⟨-, hbreak⟩, hletter⟩ | ⟨e, width, he, hc, ⟨-, hbreak⟩, hletter, hlength⟩
  · refine ⟨m.skip 2, by simp [Mark.skip], ?_⟩
    rw [he, scanDouble.eq_def]
    simp [hslash, hcolumn, hbreak, hletter]
  · -- All digits but the last are read first; the last one completes the number.
    obtain ⟨m', hm', hread⟩ := scanDouble_upperHex f.join (c.toNat / 16) width 1 0
      (upperDigit (c.toNat % 16) :: rest) (m.skip 2) Nat.one_pos
    refine ⟨m'.skip 1, by simp [Mark.skip], ?_⟩
    have hvalue : Hex.value? (upperDigit (c.toNat % 16)) = some (c.toNat % 16) :=
      value?_upperDigit (Nat.mod_lt _ (by decide))
    have hsum : 16 * (0 * 16 ^ width + c.toNat / 16 % 16 ^ width) + c.toNat % 16 = c.toNat := by
      have hlt : c.toNat / 16 < 16 ^ width := by
        rw [Nat.pow_succ] at hc
        omega
      rw [Nat.mod_eq_of_lt hlt]
      omega
    have hopened : scanDouble f none ('\\' :: escapeCode c ++ rest) m
        = scanDouble f.join (some (width + 1, 0)) (upperHex c.toNat (width + 1) ++ rest)
          (m.skip 2) := by
      rw [he, scanDouble.eq_def]
      simp [hslash, hcolumn, hbreak, hletter, hlength]
    rw [hopened, upperHex, List.append_assoc, List.singleton_append, hread, scanDouble.eq_def]
    simp only [hvalue, beq_self_eq_true, if_true, hsum, charOf?_toNat, Folding.push_join]

/-- The form of a character stands for the character. -/
theorem scanDouble_writeDoubleChar (hf : f.ended = false) (hm : 0 < m.column) (c : Char)
    (rest : Text) :
    ∃ f' m', f'.ended = false ∧ 0 < m'.column ∧ f'.join.text = f.join.text ++ [c] ∧
      scanDouble f none (writeDoubleChar c ++ rest) m = scanDouble f' none rest m' := by
  by_cases hescape : (!isPrintable c || isBreak c || c == '"' || c == '\\') = true
  · obtain ⟨m', hm', hread⟩ := scanDouble_escape hm f c rest
    rw [writeDoubleChar, if_pos hescape, hread]
    exact ⟨f.push c, m', rfl, hm', f.join_text_push c, rfl⟩
  · rw [writeDoubleChar, if_neg hescape, List.singleton_append]
    simp only [Bool.not_eq_true, Bool.or_eq_false_iff, Bool.not_eq_false'] at hescape
    obtain ⟨⟨⟨hprint, hbreak⟩, hquote⟩, hslash⟩ := hescape
    have hcolumn : (m.column == 0) = false := beq_false_of_ne (by omega)
    -- A blank waits for the next character, as it does in other styles.
    by_cases hblank : isBlank c = true
    · have hspace : f.space c = { f with blanks := f.blanks ++ [c] } := by
        simp [Folding.space, hbreak, hf]
      refine ⟨f.space c, m.skip 1, ?_, by simp [Mark.skip], ?_, ?_⟩
      · rw [hspace, hf]
      · rw [hspace]
        simp [Folding.join, Folding.text, hf]
      · rw [scanDouble.eq_def]
        simp [hbreak, hblank]
    · refine ⟨f.push c, m.pass c, rfl, by simp [Mark.pass], f.join_text_push c, ?_⟩
      rw [scanDouble.eq_def]
      simp [hbreak, hblank, hcolumn, hquote, hslash]

/-- Reading on in the characters of a text between double quotes. -/
theorem scanDouble_flatMap (rest : Text) (t : Text) :
    ∀ (f : Folding) (m : Mark), f.ended = false → 0 < m.column →
      ∃ m', scanDouble f none (t.flatMap writeDoubleChar ++ '"' :: rest) m
        = .ok (f.join.text ++ t, rest, m') := by
  induction t with
  | nil =>
    intro f m _ hm
    have hcolumn : (m.column == 0) = false := beq_false_of_ne (by omega)
    refine ⟨m.skip 1, ?_⟩
    rw [List.flatMap_nil, List.nil_append, scanDouble.eq_def, List.append_nil]
    simp [show isBreak '"' = false from rfl, show isBlank '"' = false from rfl, hcolumn]
  | cons c t ih =>
    intro f m hf hm
    obtain ⟨f', m₁, hf', hm₁, htext, hread⟩ := scanDouble_writeDoubleChar hf hm c
      (t.flatMap writeDoubleChar ++ '"' :: rest)
    obtain ⟨m', hm'⟩ := ih f' m₁ hf' hm₁
    refine ⟨m', ?_⟩
    rw [List.flatMap_cons, List.append_assoc, hread, hm', htext, List.append_assoc,
      List.singleton_append]

/-- A text between double quotes reads back. -/
theorem exists_writeDouble (t : Text) :
    ∃ body, writeDouble t = '"' :: body ∧ ∀ (rest : Text) (m : Mark), 0 < m.column →
      ∃ m', scanDouble .empty none (body ++ rest) m = .ok (t, rest, m') := by
  refine ⟨t.flatMap writeDoubleChar ++ ['"'], rfl, fun rest m hm => ?_⟩
  obtain ⟨m', hm'⟩ := scanDouble_flatMap rest t .empty m rfl hm
  refine ⟨m', ?_⟩
  rw [List.append_assoc, List.singleton_append]
  exact hm'

/-! ### Printable characters -/

theorem isPrintable_writeSingle (ht : ∀ c ∈ t, isPrintable c = true) :
    ∀ d ∈ writeSingle t, isPrintable d = true := by
  have hchar : ∀ c ∈ t, ∀ d ∈ writeSingleChar c, isPrintable d = true := by
    intro c hc d hd
    unfold writeSingleChar at hd
    split at hd
    · simp only [List.mem_cons, List.not_mem_nil, or_false, or_self] at hd
      rw [hd]
      rfl
    · rw [List.mem_singleton.1 hd]
      exact ht c hc
  have hmargin : ∀ d ∈ margin, isPrintable d = true := List.all_eq_true.1 rfl
  intro d hd
  rw [writeSingle_eq] at hd
  simp only [List.mem_append, List.mem_cons, List.not_mem_nil, or_false] at hd
  rcases hd with rfl | (hd | hd) | rfl
  · rfl
  · exact isPrintable_writeLines ht hchar _ d hd
  · split at hd
    · exact hmargin d hd
    · cases hd
  · rfl

theorem isPrintable_upperHex (n width : Nat) : ∀ d ∈ upperHex n width, isPrintable d = true := by
  have hdigit : ∀ n < 16, isPrintable (upperDigit n) = true := by decide
  induction width generalizing n with
  | zero => exact nofun
  | succ width ih =>
    intro d hd
    rcases List.mem_append.1 hd with hd | hd
    · exact ih (n / 16) d hd
    · rw [List.mem_singleton.1 hd]
      exact hdigit _ (Nat.mod_lt n (by decide))

theorem isPrintable_writeDouble (t : Text) : ∀ d ∈ writeDouble t, isPrintable d = true := by
  have hchar : ∀ c, ∀ d ∈ writeDoubleChar c, isPrintable d = true := by
    intro c d hd
    unfold writeDoubleChar at hd
    split at hd
    · rcases List.mem_cons.1 hd with rfl | hd
      · rfl
      · rcases escapeCode_eq_or c with ⟨e, he, ⟨hprint, -⟩, -⟩ | ⟨e, width, he, -, ⟨hprint, -⟩, -⟩
        · rw [he, List.mem_singleton] at hd
          rwa [hd]
        · rw [he, List.mem_cons] at hd
          rcases hd with rfl | hd
          · exact hprint
          · exact isPrintable_upperHex _ _ d hd
    · next hescape =>
      rw [List.mem_singleton.1 hd]
      simp only [Bool.not_eq_true, Bool.or_eq_false_iff, Bool.not_eq_false'] at hescape
      exact hescape.1.1.1
  intro d hd
  simp only [writeDouble, List.cons_append, List.mem_cons, List.mem_append, List.mem_flatMap,
    List.not_mem_nil, or_false] at hd
  rcases hd with rfl | ⟨c, -, hd⟩ | rfl
  · rfl
  · exact hchar c d hd
  · rfl

end WifiNames.Yaml
