import WifiNames.Proofs.Scan.Word

namespace WifiNames.Scan

open Utf8

/-!
# Fields as tokens — two ways to the name of a scan result

The name in a line of scan results is looked for as the last field of the line, and only where there
is none as a token.  A field is a token too if it is a word with a byte escape, and what stands before
it neither has a byte escape nor escapes the tab.

* `fst_run_append_cons` — a run does not go over a blank that is not escaped.
* `tokensFrom_append_cons` — so no token begins before it without a byte escape.
* `tokensFrom_field` — a field is the only token of what stands behind the tab.
* `tokens_eq_singleton_field` — **both ways** find it.
-/

/-! ### Blanks -/

/-- The last character of a rest is the last one of the whole. -/
theorem getLast?_ne_of_cons {c d : Char} {t : Text} (h : (d :: t).getLast? ≠ some c) :
    t.getLast? ≠ some c := by
  cases t with
  | nil => simp
  | cons e t => rwa [List.getLast?_cons_cons] at h

/-- A blank that is not escaped is not read. -/
theorem run_of_isBlank {c : Char} (hc : Text.isBlank c = true) (rest : Text) :
    run (c :: rest) = ([], c :: rest) := by
  have hne : c ≠ '\\' := by
    rintro rfl
    cases hc
  rw [run.eq_def]
  simp only [hne, hc, if_false, if_true]

/-- **A run ends** before a blank that is not escaped. -/
theorem fst_run_append_cons {t : Text} {c : Char} (hc : Text.isBlank c = true)
    (hlast : t.getLast? ≠ some '\\') (rest : Text) : (run (t ++ c :: rest)).1 = (run t).1 := by
  fun_induction run t with
  | case1 => rw [List.nil_append, run_of_isBlank hc]
  -- The text is a single backslash, which would escape the blank.
  | case2 => exact absurd rfl hlast
  | case3 after => rfl
  | case4 d t hd ih =>
    have ht := getLast?_ne_of_cons (getLast?_ne_of_cons hlast)
    rw [List.cons_append, List.cons_append, run_escaped hd, ih ht]
  | case5 d t hd hblank => rw [List.cons_append, run_of_isBlank hblank]
  | case6 d t hd hblank ih =>
    have ht := getLast?_ne_of_cons hlast
    rw [List.cons_append, run_plain ⟨Bool.eq_false_iff.2 hblank, hd⟩, ih ht]

/-- What is read has a byte escape only if the text has one. -/
theorem hasByte_run_eq_false {t : Text} (h : hasByteEscape t = false) : hasByte (run t).1 = false := by
  rw [Bool.eq_false_iff]
  intro hbyte
  have hescape := hasByteEscape_of_hasByte (run t).2 hbyte
  rw [textOf_run, h] at hescape
  cases hescape

/-- **No token begins** where no byte escape comes before a blank that is not escaped. -/
theorem tokensFrom_append_cons {before : Text} {c : Char} (start : Nat)
    (hnone : hasByteEscape before = false) (hlast : before.getLast? ≠ some '\\')
    (hc : Text.isBlank c = true) (rest : Text) :
    tokensFrom start (before ++ c :: rest) =
      tokensFrom (start + length before + c.utf8Size) rest := by
  induction before generalizing start with
  | nil =>
    have hread : hasByte (run (c :: rest)).1 ≠ true := by
      rw [run_of_isBlank hc]
      exact Bool.false_ne_true
    rw [List.nil_append, tokensFrom, dif_neg hread]
    rfl
  | cons d before ih =>
    -- What is read from here on ends before the blank, where no byte escape has come yet.
    have hread : hasByte (run (d :: (before ++ c :: rest))).1 ≠ true := by
      rw [← List.cons_append, fst_run_append_cons hc hlast, hasByte_run_eq_false hnone]
      exact Bool.false_ne_true
    rw [hasByteEscape, Bool.or_eq_false_iff] at hnone
    rw [List.cons_append, tokensFrom, dif_neg hread, ih _ hnone.2 (getLast?_ne_of_cons hlast),
      length_cons, Nat.add_assoc start]

/-! ### Fields -/

/-- Line ends are blank. -/
theorem isBlank_of_isLineEnd {c : Char} (hc : isLineEnd c = true) : Text.isBlank c = true := by
  rw [isLineEnd, Bool.or_eq_true, beq_iff_eq, beq_iff_eq] at hc
  rcases hc with rfl | rfl <;> decide

/-- Line ends have no byte escape. -/
theorem hasByteEscape_of_isLineEnd {ends : Text} (hends : ∀ c ∈ ends, isLineEnd c = true) :
    hasByteEscape ends = false := by
  rw [Bool.eq_false_iff]
  intro hescape
  obtain ⟨before, rest, rfl, hstarts⟩ := hasByteEscape_iff.1 hescape
  obtain ⟨h, l, more, rfl, -⟩ := startsByteEscape_iff.1 hstarts
  have hbackslash := hends '\\' (by simp)
  cases hbackslash

/-- A word with line ends behind it is a token, if it has a byte escape. -/
theorem tokensFrom_field {pieces : List Piece} {field ends : Text} (start : Nat)
    (hword : IsWord pieces field) (hbyte : HoldsByte pieces)
    (hends : ∀ c ∈ ends, isLineEnd c = true) :
    tokensFrom start (field ++ ends) = [⟨start, field⟩] := by
  -- The word is read to its end, and the line ends are not read any more.
  have hstop : run ends = ([], ends) := by
    cases ends with
    | nil => rw [run]
    | cons c ends => exact run_of_isBlank (isBlank_of_isLineEnd (hends c List.mem_cons_self)) ends
  have hrun : run (field ++ ends) = (pieces, ends) := by
    rw [← hword.textOf_eq, run_append fun p hp => (hword.isSolid p hp).isUnit, hstop,
      List.append_nil]
  rw [tokensFrom_cons_of_run start hrun (hasByte_iff.2 hbyte), hword.textOf_eq,
    tokensFrom_eq_nil (hasByteEscape_of_isLineEnd hends)]

/-- A word with a byte escape is the field of its line. -/
theorem isScanResult_of_isWord {pieces : List Piece} {before field ends : Text}
    (hword : IsWord pieces field) (hbyte : HoldsByte pieces)
    (hends : ∀ c ∈ ends, isLineEnd c = true) :
    IsScanResult (before ++ '\t' :: (field ++ ends)) before field ends where
  line_eq := rfl
  tab_notMem := by
    intro htab
    -- A tab is blank, and a word has no blanks.
    have hblank := hword.isBlank_eq '\t' htab
    cases hblank
  hasByteEscape_eq := by
    have hescape := hasByteEscape_of_hasByte [] (hasByte_iff.2 hbyte)
    rwa [List.append_nil, hword.textOf_eq] at hescape
  isLineEnd_getLast? := by
    intro c hc
    have hblank := hword.isBlank_eq c (List.mem_of_getLast? hc)
    rw [Bool.eq_false_iff]
    intro hend
    rw [isBlank_of_isLineEnd hend] at hblank
    cases hblank
  isLineEnd_of_mem := hends

/-- **Both ways.** Where the last field of a line is a word with a byte escape, and no byte escape
    stands in what comes before the tab and does not end with a backslash, the token that is found as
    the field is the one token of the line.  So the line has one name, whichever way is taken. -/
theorem tokens_eq_singleton_field {pieces : List Piece} {line before field ends : Text}
    (hline : line = before ++ '\t' :: (field ++ ends)) (hword : IsWord pieces field)
    (hbyte : HoldsByte pieces) (hnone : hasByteEscape before = false)
    (hlast : before.getLast? ≠ some '\\') (hends : ∀ c ∈ ends, c = '\r' ∨ c = '\n') :
    ∃ token, field? line = some token ∧ tokens line = [token] ∧
      (token.start = length before + 1 ∧ token.stop = length before + 1 + length field ∧
        token.text = field) ∧
      names line = (tokens line).map .ofToken := by
  subst hline
  have hlineEnds (c : Char) (hc : c ∈ ends) : isLineEnd c = true := by
    rw [isLineEnd, Bool.or_eq_true, beq_iff_eq, beq_iff_eq]
    exact hends c hc
  have hresult : IsScanResult (before ++ '\t' :: (field ++ ends)) before field ends :=
    isScanResult_of_isWord hword hbyte hlineEnds
  have htokens : tokens (before ++ '\t' :: (field ++ ends)) = [⟨length before + 1, field⟩] := by
    rw [tokens_eq, tokensFrom_append_cons 0 hnone hlast (by decide),
      tokensFrom_field _ hword hbyte hlineEnds, Nat.zero_add]
    rfl
  refine ⟨⟨length before + 1, field⟩, hresult.field?_eq, htokens, ⟨rfl, rfl, rfl⟩, ?_⟩
  rw [names_of_isScanResult hresult, htokens]
  rfl

/-- The field before the name ends with an escape that is no byte escape, and the name begins with an
    escaped backslash and has two line ends behind it. -/
theorem tokens_eq_singleton_field_of_lineEnds :
    (IsWord [.escaped '\\', .escaped 'x', .plain 'd', .plain '6'] "\\\\\\xd6".toList ∧
      HoldsByte [.escaped '\\', .escaped 'x', .plain 'd', .plain '6'] ∧
      hasByteEscape "-52\t\\xd".toList = false ∧ "-52\t\\xd".toList.getLast? ≠ some '\\' ∧
      ∀ c ∈ ['\r', '\n'], c = '\r' ∨ c = '\n') ∧
      ∃ token, field? "-52\t\\xd\t\\\\\\xd6\r\n".toList = some token ∧
        tokens "-52\t\\xd\t\\\\\\xd6\r\n".toList = [token] ∧
        token.start = 8 ∧ token.stop = 14 ∧ token.text = "\\\\\\xd6".toList := by
  have hline : "-52\t\\xd\t\\\\\\xd6\r\n".toList =
      "-52\t\\xd".toList ++ '\t' :: ("\\\\\\xd6".toList ++ ['\r', '\n']) := by decide +kernel
  have hword : IsWord [.escaped '\\', .escaped 'x', .plain 'd', .plain '6'] "\\\\\\xd6".toList :=
    ⟨by decide +kernel, List.forall_iff_forall_mem.1 (by decide +kernel), by simp⟩
  have hbyte : HoldsByte [.escaped '\\', .escaped 'x', .plain 'd', .plain '6'] :=
    ⟨[.escaped '\\'], 'd', '6', [], rfl, by decide, by decide⟩
  have hnone : hasByteEscape "-52\t\\xd".toList = false := by decide +kernel
  have hlast : "-52\t\\xd".toList.getLast? ≠ some '\\' := by decide +kernel
  have hends : ∀ c ∈ ['\r', '\n'], c = '\r' ∨ c = '\n' :=
    List.forall_iff_forall_mem.1 (by decide)
  obtain ⟨token, hfield, htokens, ⟨hstart, hstop, htext⟩, -⟩ :=
    tokens_eq_singleton_field hline hword hbyte hnone hlast hends
  exact ⟨⟨hword, hbyte, hnone, hlast, hends⟩, token, hfield, htokens, hstart, hstop, htext⟩

/-- A tab that is escaped does not end a token, but it ends a field. -/
example : field? "a\\\t\\xd6".toList = some ⟨3, "\\xd6".toList⟩ ∧
    tokens "a\\\t\\xd6".toList = [⟨0, "a\\\t\\xd6".toList⟩] := by
  decide +kernel

end WifiNames.Scan
